import PlhrFirmware.Lib.Reachable
import PlhrFirmware.Lib.Ring
import PlhrFirmware.Lib.Latest
import PlhrFirmware.Lib.Bytes
import PlhrFirmware.Acquisition.Udma
import PlhrFirmware.Acquisition.Order
import PlhrFirmware.Acquisition.Overwrite
import PlhrFirmware.Acquisition.Service
import PlhrFirmware.Message.Structs
import PlhrFirmware.Pipeline.Downsampling
import PlhrFirmware.Pipeline.System
import PlhrFirmware.Pipeline.Pass
import PlhrFirmware.Pipeline.Handover
import PlhrFirmware.Pipeline.Published
import PlhrFirmware.Pipeline.Runs
import PlhrFirmware.Pipeline.Delivery
import PlhrFirmware.Pipeline.TimeReference
import PlhrFirmware.Pipeline.TimeRequest
import PlhrFirmware.Mqtt.Topic
import PlhrFirmware.Mqtt.Command
import PlhrFirmware.Mqtt.Framing
import PlhrFirmware.Mqtt.Identity
import PlhrFirmware.Client.Library
import PlhrFirmware.Client.Connect
import PlhrFirmware.Client.Acks
import PlhrFirmware.Session.Backlog
import PlhrFirmware.Session.System
import PlhrFirmware.Session.Steps
import PlhrFirmware.Session.Cleanup
import PlhrFirmware.Session.Attribution
import PlhrFirmware.Session.Agreement
import PlhrFirmware.Session.Recovery
import PlhrFirmware.Lib.Chain
import PlhrFirmware.Session.Topics
import PlhrFirmware.Session.EventLoop
import PlhrFirmware.Acquisition.Interrupts
import PlhrFirmware.Lib.Wildcard
import PlhrFirmware.Mqtt.Matching
import PlhrFirmware.Session.Resubscription
import PlhrFirmware.Session.Unsubscription
import PlhrFirmware.Analysis.Intervals
import PlhrFirmware.Pipeline.Packing
import PlhrFirmware.Pipeline.UnixTime
import PlhrFirmware.Pipeline.Wlan
import PlhrFirmware.Analysis.Midnight
import PlhrFirmware.Analysis.Grouping
import PlhrFirmware.Analysis.Daily
import PlhrFirmware.Analysis.Monthly
import PlhrFirmware.Mqtt.Assignment
import PlhrFirmware.Session.Dispatch
import PlhrFirmware.Session.Leaks
import PlhrFirmware.Telemetry.Delivery
import PlhrFirmware.Telemetry.Runs
import PlhrFirmware.Telemetry.Stream
import PlhrFirmware.Client.ContextThread
import PlhrFirmware.Client.Options
import PlhrFirmware.Analysis.Hourly
import PlhrFirmware.Lib.Layout
import PlhrFirmware.Mqtt.Payload
import PlhrFirmware.Pipeline.Association
import PlhrFirmware.Client.Publishing
