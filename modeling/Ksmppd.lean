import Ksmppd.Lib.Transition
import Ksmppd.Lib.Custody
import Ksmppd.Lib.Keyed
import Ksmppd.Lib.Trace
import Ksmppd.Lib.Words
import Ksmppd.Lib.Calendar
import Ksmppd.Lib.Champion
import Ksmppd.Types
import Ksmppd.Text
import Ksmppd.Pdu
import Ksmppd.Esme
import Ksmppd.EsmeLookup
import Ksmppd.PduUtil
import Ksmppd.Callbacks
import Ksmppd.CallbackOutcome
import Ksmppd.AckStatus
import Ksmppd.Bearerbox.Model
import Ksmppd.Bearerbox.Custody
import Ksmppd.Bearerbox.Outcome
import Ksmppd.Submit.Model
import Ksmppd.Submit.OneResponse
import Ksmppd.Submit.System
import Ksmppd.Submit.Accepted
import Ksmppd.Delivery.Model
import Ksmppd.Delivery.Ledger
import Ksmppd.Delivery.Parts
import Ksmppd.Delivery.Retention
import Ksmppd.Database.Model
import Ksmppd.Database.Claims
import Ksmppd.Redis.Command
import Ksmppd.Redis.Message
import Ksmppd.Database.Credit
import Ksmppd.Database.Handout
import Ksmppd.Database.Requeue
import Ksmppd.Lib.Loop
import Ksmppd.Redis.Store
import Ksmppd.Redis.GetStored
import Ksmppd.Redis.Removal
import Ksmppd.Submit.Billing
import Ksmppd.Sessions.Model
import Ksmppd.Sessions.Unbound
import Ksmppd.Sessions.Quiet
import Ksmppd.Sessions.Lists
import Ksmppd.Sessions.BindLimit
import Ksmppd.Sessions.BestReceiver
import Ksmppd.Sessions.References
import Ksmppd.Lib.Pool
import Ksmppd.Redis.PduStore
import Ksmppd.Redis.PduIndex
import Ksmppd.Database.Rows
import Ksmppd.Lib.Pieces
import Ksmppd.Receipts.DlrUrl
import Ksmppd.Receipts.Parse
import Ksmppd.Receipts.Fallback
import Ksmppd.Receipts.MsgToPdu
import Ksmppd.Receipts.External
import Ksmppd.Receipts.RoundTrip
import Ksmppd.Receipts.Dates
import Ksmppd.Routes.Model
import Ksmppd.Routes.FirstMatch
import Ksmppd.Routes.GivenId
import Ksmppd.Routes.Cache
import Ksmppd.Dispatch.Model
import Ksmppd.Dispatch.Effects
import Ksmppd.Dispatch.AckLimit
import Ksmppd.Dispatch.Numbers
import Ksmppd.Dispatch.Expiry
import Ksmppd.Listener.Chunks
import Ksmppd.Listener.Blocklist
import Ksmppd.Dispatch.GetQueued
import Ksmppd.Dispatch.FreeWindow
import Ksmppd.Database.Drain
import Ksmppd.Lib.LeftJoin
import Ksmppd.Lib.Lexer
import Ksmppd.Lib.Columns
import Ksmppd.Database.Statements
import Ksmppd.Database.Placeholders
import Ksmppd.Database.UrlCode
import Ksmppd.Database.Literals
import Ksmppd.SmToMsg
import Ksmppd.UdhLength
import Ksmppd.Routes.AbsentSender
import Ksmppd.Routes.ReceiveThread
import Ksmppd.Receipts.PartPdus
import Ksmppd.Dispatch.Refusals
import Ksmppd.Validity
import Ksmppd.Addresses
import Ksmppd.Listener.Exempt
import Ksmppd.Lib.Counting
import Ksmppd.Dispatch.Readers
import Ksmppd.Lib.Budget
import Ksmppd.Routes.RequestThreads
import Ksmppd.Routes.Headers
import Ksmppd.Sessions.Depth
import Ksmppd.Bearerbox.Contexts
import Ksmppd.Submit.Requests
import Ksmppd.Sessions.Answers
import Ksmppd.Sessions.Whereabouts
import Ksmppd.Sessions.CleanupThread
import Ksmppd.Sessions.Silence
import Ksmppd.Lib.Migration
import Ksmppd.Database.Schema
import Ksmppd.Database.Upgrade
import Ksmppd.Sessions.UnbindCommand
import Ksmppd.Redis.Json
import Ksmppd.Redis.Refinement
import Ksmppd.Listener.ErrorLimit
import Ksmppd.Submit.Settings
import Ksmppd.Sessions.Settings
import Ksmppd.Sessions.Charges
import Ksmppd.Sessions.Backends
import Ksmppd.Http.Server
import Ksmppd.Redis.StoreCalls
import Ksmppd.Redis.Conservation
import Ksmppd.Redis.StoreIndex
import Ksmppd.Redis.PduConservation
