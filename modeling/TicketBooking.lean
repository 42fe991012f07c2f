import TicketBooking.Lib.StepSystem
import TicketBooking.Lib.ListUpdate
import TicketBooking.Lib.Rounding
import TicketBooking.Lib.Fallible
import TicketBooking.Lib.GroupCount
import TicketBooking.Lib.CounterLedger
import TicketBooking.Lib.FirstFit
import TicketBooking.Lib.OffsetPaging
import TicketBooking.Lib.UniqueIndex
import TicketBooking.Lib.Words
import TicketBooking.Lib.SmallestFirst
import TicketBooking.Lib.BijectiveDigits
import TicketBooking.Lib.RangePages
import TicketBooking.Lib.OrderedLocking
import TicketBooking.Lib.LockHolder
import TicketBooking.Lib.JoinedRecords
import TicketBooking.Schemas
import TicketBooking.Catalog
import TicketBooking.DbErrors
import TicketBooking.Database
import TicketBooking.OrderService
import TicketBooking.SeatRelease
import TicketBooking.CreateCall
import TicketBooking.PaymentService
import TicketBooking.Sweeper
import TicketBooking.System
import TicketBooking.Planning
import TicketBooking.SeatLedger
import TicketBooking.Commits
import TicketBooking.LifeCycle
import TicketBooking.Idempotency
import TicketBooking.Retries
import TicketBooking.Amounts
import TicketBooking.SeatUniqueness
import TicketBooking.CommitOutcome
import TicketBooking.BookingLocks
import TicketBooking.HoldExpiry
import TicketBooking.Replays
import TicketBooking.Contention
import TicketBooking.Compensation
import TicketBooking.OrderPages
import TicketBooking.UserNames
import TicketBooking.UserService
import TicketBooking.UserSystem
import TicketBooking.Login
import TicketBooking.DualWrite
import TicketBooking.PartialUpdates
import TicketBooking.NamePhases
import TicketBooking.NameMigration
import TicketBooking.StoredNames
import TicketBooking.NameSwitch
import TicketBooking.OnePartPut
import TicketBooking.NameWidths
import TicketBooking.ContractRollback
import TicketBooking.BackfillRuns
import TicketBooking.SeatMap
import TicketBooking.CheckFile
import TicketBooking.IndexReview
import TicketBooking.ConsistencyAudit
import TicketBooking.CounterRelease
import TicketBooking.SweepBatches
import TicketBooking.FeatureFlags
import TicketBooking.FlagCache
import TicketBooking.OwnChange
import TicketBooking.OutboxDrain
import TicketBooking.FlagHistory
import TicketBooking.FlagFleet
import TicketBooking.AuditRepair
import TicketBooking.EventCatalog
import TicketBooking.SeatsCheckout
import TicketBooking.CheckoutPage
import TicketBooking.DbGuards
import TicketBooking.MigrationSnapshot
import TicketBooking.MigrationVerify
