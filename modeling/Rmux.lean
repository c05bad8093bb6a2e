import Rmux.Runtime
import Rmux.Bufio
import Rmux.Protocol.Basic
import Rmux.Protocol.GetCommand
import Rmux.Protocol.Reply
import Rmux.Protocol.Stream
import Rmux.Protocol.StreamCorrect
import Rmux.Connection.Backend
import Rmux.Connection.Basic
import Rmux.Connection.Lifecycle
import Rmux.Connection.InStep
import Rmux.Protocol.Malformed
import Rmux.Protocol.Request
import Rmux.Connection.Recovery
import Rmux.Connection.Refinement
