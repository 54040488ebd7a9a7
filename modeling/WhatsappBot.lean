import WhatsappBot.Db.ActiveKeys
import WhatsappBot.Db.ConcurrentMigration
import WhatsappBot.Db.Lifecycle
import WhatsappBot.Db.References
import WhatsappBot.Health.DeadSession
import WhatsappBot.Lib.SharedStore
import WhatsappBot.Lib.Transition
import WhatsappBot.Lock.MutualExclusion
import WhatsappBot.Messaging.Backoff
import WhatsappBot.Messaging.BatchJobs
import WhatsappBot.Messaging.KeyIdentity
import WhatsappBot.Messaging.MediaEnqueue
import WhatsappBot.Messaging.MediaTypes
import WhatsappBot.Messaging.NoTrace
import WhatsappBot.Messaging.NormalForm
import WhatsappBot.Messaging.Pacing
import WhatsappBot.Messaging.QueueWorker
import WhatsappBot.Messaging.StagedFiles
import WhatsappBot.Messaging.Submissions
import WhatsappBot.Runtime.Allowlist
import WhatsappBot.Runtime.AuditTrail
import WhatsappBot.Runtime.Backlog
import WhatsappBot.Runtime.BoundedSending
import WhatsappBot.Runtime.BulkAccounts
import WhatsappBot.Runtime.CliBulk
import WhatsappBot.Runtime.ContentAddressing
import WhatsappBot.Runtime.DaemonRefinement
import WhatsappBot.Runtime.Delivery
import WhatsappBot.Runtime.Drain
import WhatsappBot.Runtime.DryRunPass
import WhatsappBot.Runtime.ForwardRefusal
import WhatsappBot.Runtime.Intent
import WhatsappBot.Runtime.JobRows
import WhatsappBot.Runtime.MediaSharing
import WhatsappBot.Runtime.OnePass
import WhatsappBot.Runtime.PauseConflicts
import WhatsappBot.Runtime.Quarantine
import WhatsappBot.Runtime.Review
import WhatsappBot.Runtime.Schedule
import WhatsappBot.Runtime.Suppression
import WhatsappBot.Whatsapp.ChatReplies
import WhatsappBot.Whatsapp.GroupService
import WhatsappBot.Whatsapp.GroupSetRefinement
import WhatsappBot.Whatsapp.KeyStore
import WhatsappBot.Whatsapp.LiveSocket
import WhatsappBot.Whatsapp.QuotedSources
import WhatsappBot.Whatsapp.SameMessages
import WhatsappBot.Whatsapp.SelfChat
import WhatsappBot.Whatsapp.SourceReferences
import WhatsappBot.Whatsapp.Superseded
import WhatsappBot.Whatsapp.TargetLists
import WhatsappBot.Whatsapp.TargetResolver
