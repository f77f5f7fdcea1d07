import AccessGateway.Cluster.File
import AccessGateway.Credential.Address
import AccessGateway.Gateway.Basic
import AccessGateway.Network.Address
import AccessGateway.Settings.Basic

/-!
# `AccessGateway.Gateway.Start`: starting a gateway

From settings to a gateway that can answer: the settings are checked, the cluster cache is filled
and has to sync, and the credential store has to be reachable, in this order. The first of these
that fails is the fault that the start ends with.

The files are read through `Files`, in any monad, so that the same function starts a gateway from
the files of a machine and from files that are given in a test.
-/

set_option autoImplicit false

namespace AccessGateway

/-- A gateway that can answer, and the credential store that it has at its start. -/
structure Running where
  gateway : Gateway
  store : CredentialStore

/-- A snapshot that cannot be loaded is a fault of the settings that name it. -/
def unusableSnapshot (path : String) (fault : Fault) : Fault :=
  .settings ("cannot load snapshot " ++ path ++ ": " ++ fault.message)

/-- The snapshot that the settings name, or an empty one. Without a name no file is read. -/
def ClusterOptions.loadSnapshot {m : Type → Type} [Monad m] (files : Files m)
    (o : ClusterOptions) : m (Outcome Snapshot) := do
  match o.snapshot with
  | none => return .ok .empty
  | some path => return (← Snapshot.load files path).mapError (unusableSnapshot path)

namespace Settings

/-- Fills the cluster cache and connects the credential store. The cache comes first, so a gateway
that never synced has no connection. -/
def assemble (s : Settings) (debug : Bool) (snapshot : Snapshot) : Outcome Running := do
  let objects := ObjectCache.ofSnapshot snapshot
  objects.waitForSync (s.cluster.getD default).syncTimeout
  let store ← CredentialStore.connect s.redis debug
  return ⟨⟨objects, s.authenticationOptions⟩, store⟩

/-- Starts a gateway. Settings that contradict themselves are refused before any file is read. -/
def start {m : Type → Type} [Monad m] (files : Files m) (s : Settings) (debug : Bool) :
    m (Outcome Running) := do
  match s.validate with
  | .error fault => return .error fault
  | .ok () =>
    return (← (s.cluster.getD default).loadSnapshot files).bind (s.assemble debug)

/-- The address to listen on, which must not be a name: names are not resolved here. -/
def listenAddress (s : Settings) : Outcome IpAddress :=
  match IpAddress.read? s.server.host with
  | some address => .ok address
  | none => .error (.settings "Invalid host: invalid IP address syntax")

end Settings

end AccessGateway
