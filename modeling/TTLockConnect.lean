import TTLockConnect.Coordinator.Readings
import TTLockConnect.Coordinator.Tiers
import TTLockConnect.Coordinator.Writers
import TTLockConnect.Coordinator.Overwrite
import TTLockConnect.Coordinator.Pending
import TTLockConnect.Coordinator.Observed
import TTLockConnect.Coordinator.Retry
import TTLockConnect.Async.Timers
import TTLockConnect.Coordinator.AutoLock
import TTLockConnect.Ble.Session
import TTLockConnect.Webhook.Records
import TTLockConnect.Webhook.Confirmed
import TTLockConnect.Webhook.Lifetime
import TTLockConnect.Async.TwoRuns
import TTLockConnect.Diagnostics.Redaction
import TTLockConnect.Diagnostics.Replies
import TTLockConnect.Diagnostics.Secrets
import TTLockConnect.Diagnostics.Capture
import TTLockConnect.Diagnostics.Dump
import TTLockConnect.Diagnostics.Unseen
import TTLockConnect.Diagnostics.Entry
import TTLockConnect.Diagnostics.Credentials
import TTLockConnect.Ble.Reassembly
import TTLockConnect.Ble.Codec
import TTLockConnect.Ble.RoundTrip
import TTLockConnect.Ble.Radio
import TTLockConnect.Ble.Resync
import TTLockConnect.Ble.Conservation
import TTLockConnect.Async.Mutex
import TTLockConnect.Cloud.Client
import TTLockConnect.Cloud.Exclusion
import TTLockConnect.Ble.Execute
import TTLockConnect.Ble.Pairing
import TTLockConnect.Ble.Answers
import TTLockConnect.Coordinator.SensorTier
import TTLockConnect.Coordinator.SensorPolls
import TTLockConnect.Coordinator.SensorRuns
import TTLockConnect.Coordinator.Absence
import TTLockConnect.Coordinator.Quota
import TTLockConnect.Coordinator.Overlap
import TTLockConnect.Setup.Balance
import TTLockConnect.Ble.Corruption
import TTLockConnect.Ble.Maxim
import TTLockConnect.Usage.Counter
import TTLockConnect.Usage.Tally
import TTLockConnect.Services.Cleanup
import TTLockConnect.Services.Refusals
import TTLockConnect.Services.Validity
import TTLockConnect.Ble.Belief
import TTLockConnect.Ble.LocalRead
import TTLockConnect.Text.Readings
import TTLockConnect.Ble.ByteList
import TTLockConnect.Ble.Renderings
import TTLockConnect.Usage.Sampling
import TTLockConnect.Usage.Estimate
import TTLockConnect.Usage.PollCalls
import TTLockConnect.Usage.Schedule
import TTLockConnect.Usage.Agreement
import TTLockConnect.Store.LockState
import TTLockConnect.Store.Merges
import TTLockConnect.Store.Concurrent
import TTLockConnect.Async.Phases
import TTLockConnect.Webhook.Register
import TTLockConnect.Webhook.Siblings
import TTLockConnect.Webhook.Once
import TTLockConnect.Coordinator.Reported
import TTLockConnect.Async.Alone
import TTLockConnect.Services.UpdateState
import TTLockConnect.Services.Lookup
import TTLockConnect.Async.Component
import TTLockConnect.ConfigFlow.Panel
import TTLockConnect.ConfigFlow.Rejections
import TTLockConnect.Cloud.Replies
import TTLockConnect.Cloud.OAuth
import TTLockConnect.Cloud.ErrorReplies
import TTLockConnect.Cloud.Paging
import TTLockConnect.Services.Enumerations
import TTLockConnect.Webhook.Resolution
import TTLockConnect.Usage.Calendar
import TTLockConnect.Usage.Counts
import TTLockConnect.Usage.Monthly
import TTLockConnect.Usage.Ordinals
import TTLockConnect.Ble.Features
import TTLockConnect.Async.Semaphore
import TTLockConnect.Async.Family
import TTLockConnect.Setup.Fill
import TTLockConnect.Coordinator.Asked
import TTLockConnect.Coordinator.OverTheAir
import TTLockConnect.Services.PassageMode
import TTLockConnect.Setup.Reload
import TTLockConnect.Setup.Views
import TTLockConnect.Async.Relies
import TTLockConnect.Async.Budget
import TTLockConnect.ConfigFlow.Conversation
import TTLockConnect.ConfigFlow.OneChange
