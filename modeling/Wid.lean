import Wid.CLib
import Wid.Calendar
import Wid.Timestamp
import Wid.Codec
import Wid.Grammar
import Wid.Roundtrip
import Wid.Gen
import Wid.Generator
import Wid.Order
import Wid.Emit
import Wid.Causality
import Wid.Memory
import Wid.Sql
import Wid.Buffers
import Wid.Runs
import Wid.Stream
import Wid.Args
import Wid.Canonical
import Wid.Otp
import Wid.Signature
import Wid.Shell
import Wid.Cli
import Wid.Service
