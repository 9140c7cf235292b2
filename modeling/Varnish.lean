import Varnish.Center.State
import Varnish.Center.Request
import Varnish.Center.Fetch
import Varnish.Center.Deliver
import Varnish.Center.Session
import Varnish.Center.Graph
import Varnish.Center.Restarts
import Varnish.Center.Objects
import Varnish.Center.Pass
import Varnish.Center.Leaks
import Varnish.Center.Xid
import Varnish.Center.Reservation
import Varnish.Center.Refs
import Varnish.Center.Entry
import Varnish.Center.Worker
import Varnish.Center.Client
import Varnish.Center.Close
import Varnish.Center.Assertions
import Varnish.Center.Backend
import Varnish.Center.Busy
import Varnish.Center.Stream
