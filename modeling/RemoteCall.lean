import RemoteCall.Client
import RemoteCall.Sample.Commands
import RemoteCall.Transport.Canned
import RemoteCall.Transport.Hub
import RemoteCall.Transport.Local
import RemoteCall.Transport.Network
import RemoteCall.Transport.Script
import RemoteCall.Proofs.Client.OneByOne
import RemoteCall.Proofs.Dispatch.Nesting
import RemoteCall.Proofs.Server.Connection
import RemoteCall.Proofs.Client.OverConnection
import RemoteCall.Proofs.Dispatch.Registration
import RemoteCall.Proofs.Dispatch.Execution
import RemoteCall.Proofs.Dispatch.Isolation
import RemoteCall.Proofs.Transport.Link
import RemoteCall.Proofs.Dispatch.Unwinding
import RemoteCall.Proofs.Wire.Recursion
import RemoteCall.Proofs.Wire.FrontToBack
import RemoteCall.Proofs.Wire.CutOff
import RemoteCall.Proofs.Wire.Lengths
import RemoteCall.Proofs.Wire.Size
import RemoteCall.Proofs.Wire.Limit
import RemoteCall.Proofs.Client.Discrimination
import RemoteCall.Proofs.Client.SlotCount
import RemoteCall.Proofs.Client.UnknownName
import RemoteCall.Proofs.Dispatch.Workload
import RemoteCall.Proofs.Dispatch.Log
import RemoteCall.Proofs.Wire.SameShape
import RemoteCall.Proofs.Wire.Unwritable
