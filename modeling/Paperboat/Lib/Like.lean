import Mathlib.Data.List.Infix
/-!
# SQL patterns

`LIKE`, over any alphabet: `any` stands for any run of characters, `one` for a
single one, and `escape` takes what follows it literally. A text without escapes,
used as the start of a pattern, matches every text it is the start of, whether or
not it has wildcards in it. With an escape it may not even match itself.
-/

namespace Paperboat.Lib

variable {α : Type} [DecidableEq α]

/-- The characters a pattern gives a meaning to. -/
structure Like (α : Type) where
  (any one escape : α)

namespace Like

inductive Token (α : Type) where
  | any
  | one
  | literal (c : α)

variable (m : Like α)

def token (c : α) : Token α := if c = m.any then .any else if c = m.one then .one else .literal c

def tokens : List α → List (Token α)
  | [] => []
  | [c] => [m.token c]
  | c :: d :: text => if c = m.escape then .literal d :: tokens text else m.token c :: tokens (d :: text)

def Token.accepts : List (Token α) → List α → Bool
  | [], text => text.isEmpty
  | .any :: pattern, text => text.tails.any (Token.accepts pattern)
  | .one :: pattern, text =>
    match text with
    | [] => false
    | _ :: text => Token.accepts pattern text
  | .literal c :: pattern, text =>
    match text with
    | [] => false
    | d :: text => c == d && Token.accepts pattern text

/-- `text LIKE pattern` -/
def accepts (pattern text : List α) : Bool := Token.accepts (m.tokens pattern) text

variable {m}

theorem tokens_cons {c : α} (hc : c ≠ m.escape) (text : List α) : m.tokens (c :: text) = m.token c :: m.tokens text := by
  cases text with
  | nil => rfl
  | cons => rw [tokens, if_neg hc]

theorem Token.accepts_token (c : α) {pattern : List (Token α)} {text : List α} (h : Token.accepts pattern text) :
    Token.accepts (m.token c :: pattern) (c :: text) := by
  unfold token
  split_ifs
  · -- a run of one character
    rw [Token.accepts, List.any_eq_true]
    exact ⟨text, (List.mem_tails _ _).2 (List.suffix_cons _ _), h⟩
  · exact h
  · simpa [Token.accepts] using h

theorem accepts_append {start : List α} (hescape : m.escape ∉ start) (rest : List α) :
    m.accepts (start ++ [m.any]) (start ++ rest) := by
  unfold accepts
  induction start with
  | nil =>
    have htoken : m.tokens ([] ++ [m.any]) = [.any] := by simp [tokens, token]
    rw [htoken, Token.accepts, List.any_eq_true]
    exact ⟨[], (List.mem_tails _ _).2 List.nil_suffix, rfl⟩
  | cons c _ ih =>
    have hc : c ≠ m.escape := fun h => hescape (h ▸ List.mem_cons_self)
    rw [List.cons_append, List.cons_append, tokens_cons hc]
    exact Token.accepts_token c (ih fun h => hescape (List.mem_cons_of_mem _ h))

end Like

end Paperboat.Lib
