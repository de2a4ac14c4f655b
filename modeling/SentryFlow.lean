import SentryFlow.Fanout.Model
import SentryFlow.Fanout.Accounting
import SentryFlow.Fanout.Independence
import SentryFlow.Go.Strings
import SentryFlow.Go.Strconv
import SentryFlow.Go.Base64
import SentryFlow.F5.Parse
import SentryFlow.F5.Outcomes
import SentryFlow.F5.Tokens
import SentryFlow.F5.Headers
import SentryFlow.F5.RoundTrip
import SentryFlow.F5.Conn
import SentryFlow.Core.Run
import SentryFlow.Config.Load
import SentryFlow.Exporter.HttpClient
import SentryFlow.Core.Startup
import SentryFlow.Exporter.Send
import SentryFlow.Gcp.Receiver
