import BotHider.Model.Manager

/-!
# BotHider — the managed plugin and its host

`BotHiderImplPlugin.Load` and `Unload`, the connection of `BridgeClient.cs`, and
`BotHiderProvider.cs`, whose fields are shared by every version of the plugin that is loaded
into the process. A plugin object and a client object are named by their place in the list of
those made so far.

Left out: what the plugin presents (it is in the world), and the library's symbols, of which
only `BH_Attach` is looked up before the client is connected.
-/

namespace BotHider.Model

/-! ## The objects -/

/-- `BridgeClient`, as far as its connection goes; `library` says whether `_library` is set. -/
structure ClientObject where
  threadId : Nat
  library : Bool := false
  disposed : Bool := false

/-- A `BotHiderImplPlugin`. `loaded` notes that its `Load` came back and it has not been
unloaded since. -/
structure PluginObject where
  client : Option Nat := none
  harmony : Bool := false
  loaded : Bool := false

/-- The fields of `BotHiderProvider`. -/
structure BotHiderProvider where
  api : Option Nat := none
  getSlot : Bool := false
  registered : Bool := false

/-- The process: the native manager with the thread its `Init` ran on, the objects made so far,
the references to the native library, the capability registrations and the patches of `IsBot`. -/
structure Host where
  manager : FakeClientManager
  bridgeThread : Nat
  clients : List ClientObject := []
  plugins : List PluginObject := []
  provider : BotHiderProvider := {}
  libraryRefs : Nat := 0
  registrations : Nat := 0
  patches : Nat := 0

namespace Host

variable (h : Host)

/-- Changes one client object. -/
def modifyClient (c : Nat) (f : ClientObject → ClientObject) : Host :=
  { h with clients := h.clients.modify c f }

/-- Changes one plugin object. -/
def modifyPlugin (i : Nat) (f : PluginObject → PluginObject) : Host :=
  { h with plugins := h.plugins.modify i f }

/-! ## The connection -/

/-- What `NativeLibrary.Load` does; `missing` is an exception `TryConnect` catches. -/
inductive LibraryLoad
  | loaded
  | missing (message : String)
  | thrown

/-- How `TryConnect` ends. -/
inductive Connected
  | connected
  | refused (error : String)
  | thrown

/-- What goes wrong in a `Load`, where each of these throws when set. `attachEntry` is the
message of an `EntryPointNotFoundException`. -/
structure LoadFaults where
  permissions : Bool := false
  library : LibraryLoad := .loaded
  attachEntry : Option String := none
  register : Bool := false
  patch : Bool := false
  listeners : Bool := false
  unpatch : Bool := false

/-- `BH_Attach`, called on a thread. -/
def bhAttach (thread : Nat) : Host × Bool :=
  let attached := h.manager.attach (thread == h.bridgeThread)
  ({ h with manager := attached.1 }, attached.2)

/-- `BH_Detach`. -/
def bhDetach (thread : Nat) : Host :=
  if (thread == h.bridgeThread) && h.manager.ready then { h with manager := h.manager.detach }
  else h

/-- `TryConnect` of a client object. -/
def tryConnect (c : Nat) (thread : Nat) (f : LoadFaults) : Host × Connected :=
  match h.clients[c]? with
  | none => (h, .thrown)
  | some client =>
    if client.disposed || client.threadId != thread then
      (h, .refused "client disposed or wrong thread")
    else if client.library then (h, .connected)
    else
      match f.library with
      | .thrown => (h, .thrown)
      | .missing message => (h, .refused message)
      | .loaded =>
        let opened : Host := { h with libraryRefs := h.libraryRefs + 1 }
        let freed : Host → Host := fun h => { h with libraryRefs := h.libraryRefs - 1 }
        match f.attachEntry with
        | some message => (freed opened, .refused message)
        | none =>
          let attached := opened.bhAttach thread
          if !attached.2 then (freed attached.1, .refused "BH_Attach rejected")
          else (attached.1.modifyClient c fun client => { client with library := true }, .connected)

/-- `IsConnected`, asked on a thread. -/
def isConnected (c : Nat) (thread : Nat) : Bool :=
  match h.clients[c]? with
  | none => false
  | some client => client.library && client.threadId == thread

/-- `Dispose`: the host, and whether nothing threw. -/
def dispose (c : Nat) (thread : Nat) : Host × Bool :=
  match h.clients[c]? with
  | none => (h, true)
  | some client =>
    if client.disposed then (h, true)
    else if client.threadId != thread then (h, false)
    else
      let disposed := h.modifyClient c fun client => { client with disposed := true }
      if !client.library then (disposed, true)
      else
        let detached := disposed.bhDetach thread
        ({ detached with libraryRefs := detached.libraryRefs - 1 }.modifyClient c
          fun client => { client with library := false }, true)

/-- `ReadSlot`: the record of a slot, if the client is connected and the native side answers. -/
def readSlot (c : Nat) (thread : Nat) (slot : Int) : Option SlotSnapshot :=
  if !h.isConnected c thread then none
  else if !((thread == h.bridgeThread) && h.manager.ready && h.manager.attached) then none
  else (slotOf slot).map fun index => (h.manager.slots index).snapshot

/-- `IsManagedBot`. -/
def isManagedBot (c : Nat) (thread : Nat) (slot : Int) : Bool :=
  (h.readSlot c thread slot).any SlotSnapshot.managed

/-! ## The provider -/

/-- `BotHiderProvider.Attach`; `throws` says whether registering the capability does. -/
def attachProvider (c : Nat) (throws : Bool) : Host × Bool :=
  let attach : Host → Host := fun h =>
    { h with provider := { h.provider with api := some c, getSlot := true } }
  if h.provider.registered then (attach h, true)
  else if throws then (h, false)
  else
    (attach
      { h with
        registrations := h.registrations + 1
        provider := { h.provider with registered := true } }, true)

/-- `BotHiderProvider.Detach`; a null client equals a null `_api`. -/
def detachProvider (client : Option Nat) : Host :=
  if h.provider.api ≠ client then h
  else { h with provider := { h.provider with api := none, getSlot := false } }

/-- `ApplyIsBot` on a thread, with the getter's own result; `slot` is what `_getSlot` returns,
`none` when it throws. -/
def applyIsBot (thread : Nat) (slot : Option Int) (result : Bool) : Bool :=
  match h.provider.api with
  | none => result
  | some c =>
    if result || !h.provider.getSlot then result
    else
      match slot with
      | none => result
      | some slot => h.isManagedBot c thread slot

/-! ## The plugin -/

/-- `Unload` of a plugin object: the host, and whether nothing threw. `unpatch` says whether its
`try` block throws, before the patches are gone; the `finally` block runs in either case. -/
def unload (i : Nat) (thread : Nat) (unpatch : Bool) : Host × Bool :=
  match h.plugins[i]? with
  | none => (h, true)
  | some plugin =>
    let unpatched : Host := if plugin.harmony && !unpatch then { h with patches := 0 } else h
    let detached := (unpatched.modifyPlugin i fun plugin =>
      { plugin with harmony := false, loaded := false }).detachProvider plugin.client
    match plugin.client with
    | none => (detached, !unpatch)
    | some c =>
      let disposed := detached.dispose c thread
      if !disposed.2 then (disposed.1, false)
      else
        (disposed.1.modifyPlugin i fun plugin => { plugin with client := none }, !unpatch)

/-- The `try` block of `Load`, for the plugin object and its connected client: the host, and
whether it got to its end. -/
def activate (i c : Nat) (f : LoadFaults) : Host × Bool :=
  let attached := h.attachProvider c f.register
  if !attached.2 then (attached.1, false)
  else
    let created := attached.1.modifyPlugin i fun plugin => { plugin with harmony := true }
    if f.patch then (created, false)
    else
      let patched := { created with patches := created.patches + 1 }
      if f.listeners then (patched, false)
      else (patched.modifyPlugin i fun plugin => { plugin with loaded := true }, true)

/-- How a `Load` ends: it comes back, or an exception leaves it, with its message where the
plugin threw it itself. -/
inductive LoadResult
  | back
  | threw (message : Option String)
  deriving DecidableEq

/-- `Load` of a new plugin object. -/
def load (thread : Nat) (f : LoadFaults) : Host × LoadResult :=
  let i := h.plugins.length
  let made : Host := { h with plugins := h.plugins ++ [{}] }
  if f.permissions then (made, .threw none)
  else
    let c := h.clients.length
    let opened := ({ made with
      clients := made.clients ++ [{ threadId := thread }] } : Host).modifyPlugin i
        fun plugin => { plugin with client := some c }
    match opened.tryConnect c thread f with
    | (h, .thrown) => (h, .threw none)
    | (h, .refused error) =>
      ((h.dispose c thread).1.modifyPlugin i fun plugin => { plugin with client := none },
        .threw (some ("BotHider bridge failed: " ++ error)))
    | (h, .connected) =>
      let activated := h.activate i c f
      if activated.2 then (activated.1, .back)
      else ((activated.1.unload i thread f.unpatch).1, .threw none)

/-! ## Events -/

/-- A process with the native library not loaded yet. -/
def start (now : UInt64) (bridgeThread : Nat) : Host where
  manager := { slots := fun _ => FakeClientManager.freshSlot now }
  bridgeThread := bridgeThread

end Host

/-- What can happen: the native plugin loads, it works on its slots, a managed plugin is loaded,
and one is unloaded. -/
inductive HostEvent
  | nativeInit (now : UInt64)
  | nativeSlots (slots : Slot → ManagedSlot)
  | load (thread : Nat) (f : Host.LoadFaults)
  | unload (plugin thread : Nat) (unpatch : Bool)

/-- The host after an event. -/
def Host.step (h : Host) : HostEvent → Host
  | .nativeInit now => { h with manager := h.manager.init now }
  | .nativeSlots slots => { h with manager := { h.manager with slots := slots } }
  | .load thread f => (h.load thread f).1
  | .unload plugin thread unpatch => (h.unload plugin thread unpatch).1

end BotHider.Model
