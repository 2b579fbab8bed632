import Mathlib.Data.List.Infix
import Paperboat.Billing.Amounts
/-!
# Webhook payloads

An event of the payment provider carries a JSON document, and the service looks
for the fields it needs under several names. What a document does not have, or has
in another type, is simply absent, so an event may come without a user, a period
or a subscription.

How Go reads and writes RFC 3339 times is a parameter.
-/

namespace Paperboat.Billing

open Lib Connector

/-! ## Documents -/

/-- A decoded document. Of a number, only its `int64` is ever used. -/
inductive Json where
  | null
  | bool (value : Bool)
  | number (value : ℤ)
  | string (value : String)
  | array (items : List Json)
  | object (fields : List (String × Json))

structure WebhookEvent where
  (id eventType : String)
  data : Json

def readInt : List Char → Option ℤ
  | '-' :: cs => if cs.isEmpty || !cs.all Char.isDigit then none else some (-(Nat.ofDigitChars 10 cs 0))
  | '+' :: cs => if cs.isEmpty || !cs.all Char.isDigit then none else some (Nat.ofDigitChars 10 cs 0)
  | cs => if cs.isEmpty || !cs.all Char.isDigit then none else some (Nat.ofDigitChars 10 cs 0)

/-- `strconv.ParseInt(value, 10, 64)`, and `strconv.Atoi` without an error. -/
def parseInt (value : String) : Option ℤ :=
  (readInt value.toList).filter fun n => decide (Duration.min ≤ n ∧ n ≤ Duration.max)

/-- The number `strconv.Atoi` returns, which on an error is the nearest one or 0. -/
def atoi (value : String) : ℤ :=
  match readInt value.toList with
  | none => 0
  | some n => max Duration.min (min Duration.max n)

/-- The parts of a path such as `customer.external_id`. -/
abbrev Path := List String

def Json.child (part : String) : Json → Option Json
  | .object fields => fields.lookup part
  | .array items => (parseInt part).bind fun i => if i < 0 then none else items[i.toNat]?
  | _ => none

def valueAtPath (root : Json) (path : Path) : Option Json := path.foldlM (fun current part => current.child part) root

/-- `webhookPayload(event)`: a document that is no object is empty. -/
def webhookPayload (event : WebhookEvent) : Json :=
  match event.data with
  | .object fields => .object fields
  | _ => .object []

/-! ## Fields -/

def firstString (m : Json) : List Path → String
  | [] => ""
  | path :: paths =>
    match valueAtPath m path with
    | some (.string value) => if trimSpace value != "" then trimSpace value else firstString m paths
    | some (.number value) => toString value
    | _ => firstString m paths

structure TimeFormat where
  /-- `time.Parse(time.RFC3339, value)` -/
  parse : String → Option Time
  /-- `t.UTC().Format(time.RFC3339Nano)` -/
  format : Time → String

/-- `time.Unix(seconds, 0).UTC()` -/
def unixTime (seconds : ℤ) : Time := ⟨(62135596800 + seconds) * Duration.second, 0⟩

def firstTime (times : TimeFormat) (m : Json) : List Path → Option Time
  | [] => none
  | path :: paths =>
    let value := firstString m [path]
    if value == "" then firstTime times m paths
    else
      match times.parse value with
      | some t => some t
      | none =>
        match parseInt value with
        | some seconds => some (unixTime seconds)
        | none => firstTime times m paths

/-- `webhookEffectiveTime(payload)`; the zero time where there is none. -/
def webhookEffectiveTime (times : TimeFormat) (payload : Json) : Time :=
  ((firstTime times payload [["modified_at"], ["updated_at"], ["effective_at"], ["created_at"]]).map Time.utc).getD Time.zero

/-! ## States and kinds of events -/

/-- `unicode.ToLower`, for texts that are compared with ASCII ones: besides the ASCII
capitals, two characters have ASCII letters for lower case. -/
def lowerChar (c : Char) : Char :=
  if c.toNat = 0x130 then 'i' else if c.toNat = 0x212A then 'k' else c.toLower

def toLower (value : String) : String := String.ofList (value.toList.map lowerChar)

/-- `strings.Contains(value, part)` -/
def contains (value part : String) : Bool := value.toList.tails.any (part.toList.isPrefixOf ·)

inductive SubscriptionState where
  | active | trialing | pastDue | canceled | incomplete | expired | paused | unpaid | revoked
  deriving DecidableEq

def subscriptionState (status eventType : String) : SubscriptionState :=
  match toLower (trimSpace status) with
  | "active" => .active
  | "trialing" => .trialing
  | "past_due" => .pastDue
  | "canceled" => .canceled
  | "incomplete" => .incomplete
  | "expired" => .expired
  | "paused" => .paused
  | "unpaid" => .unpaid
  | "revoked" => .revoked
  | "cancelled" => .canceled
  | _ =>
    let eventType := toLower eventType
    if contains eventType "trial" then .trialing
    else if contains eventType "cancel" then .canceled
    else if contains eventType "past_due" then .pastDue
    else if contains eventType "pause" then .paused
    else if contains eventType "revok" then .revoked
    else if contains eventType "unpaid" then .unpaid
    else if contains eventType "incomplete" then .incomplete
    else if contains eventType "expire" then .expired
    else .active

def refundLikeEvent (eventType : String) : Bool :=
  let eventType := toLower eventType
  contains eventType "refund" || contains eventType "chargeback" || contains eventType "dispute"

def billingRelevantEvent (eventType : String) : Bool :=
  let eventType := toLower (trimSpace eventType)
  "subscription.".toList.isPrefixOf eventType.toList || eventType == "order.paid" || refundLikeEvent eventType

end Paperboat.Billing
