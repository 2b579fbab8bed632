import Paperboat.Connector.ConfigOrder
import Paperboat.Connector.Withdrawal
import Paperboat.Connector.RevokeBinding
import Paperboat.Connector.LastKnownGood
import Paperboat.Connector.Liveness
import Paperboat.Connector.Persistence
import Paperboat.Metering.StoppedTime
import Paperboat.Billing.PlanSwitches
import Paperboat.Billing.TopupOrders
import Paperboat.Billing.Refunds
import Paperboat.Billing.StorageEstimate
import Paperboat.Projects.Removal
import Paperboat.Projects.AppliedConfig
import Paperboat.Projects.StorageBalance
import Paperboat.Tunnel.Redelivery
import Paperboat.Tunnel.Retries
import Paperboat.Tunnel.IssuanceLocks
import Paperboat.Previews.Quarantine
import Paperboat.Previews.Views
import Paperboat.Previews.Terminal
import Paperboat.Previews.Generations
import Paperboat.Attachments.Selection
import Paperboat.Attachments.Restart
import Paperboat.Attachments.Readiness
import Paperboat.Attachments.Completion
import Paperboat.Bandwidth.Chargeable
import Paperboat.Connector.DrainRecords
import Paperboat.Previews.RetryJitter
import Paperboat.Teams.Capacity
import Paperboat.Machines.TerminalOperations
