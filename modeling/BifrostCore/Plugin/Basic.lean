import BifrostCore.Store

/-!
# Plugins

`plugin/mod.rs`: the plugin interface and the `PluginManager`, which calls the registered plugins
in registration order. A plugin is a record of programs over some signature of operations; the
plugins of the proxy itself are over `StoreSig`.

A dispatcher of the manager stops at the first plugin that fails or does not let the processing
continue.
-/

namespace Bifrost

open Concurrency

/-- `DataDirection`. -/
inductive DataDirection where
  | upstream | downstream
  deriving DecidableEq, Repr

/-- The callbacks of a plugin. -/
inductive Callback where
  | handleRequest | handleResponse | handleConnect | handleConnectClose | handleData
  deriving DecidableEq, Repr

/-- The `Plugin` trait. A `&mut` argument is handed back with the result. -/
structure Plugin (π : Sig) where
  handleRequest : UInt64 → Request → Prog π (Result (Bool × Option Response) × Request)
  handleResponse : UInt64 → Request → Response → Prog π (Result Bool × Response)
  handleConnect : UInt64 → Request → Prog π (Result (Bool × Option Response))
  handleConnectClose : UInt64 → Str → Prog π (Result Bool)
  handleData : UInt64 → DataDirection → List UInt8 → Prog π (Result Unit)

/-- `PluginManager`. -/
structure PluginManager (π : Sig) where
  /-- The registered plugins, in registration order. -/
  plugins : List (Plugin π)

namespace PluginManager

variable {π : Sig}

/-- The manager before any registration. -/
def empty : PluginManager π := ⟨[]⟩

/-- `register_plugin`. -/
def registerPlugin (pm : PluginManager π) (plugin : Plugin π) : PluginManager π :=
  { pm with plugins := pm.plugins ++ [plugin] }

/-- The loop of `handle_request`. -/
def handleRequestLoop (requestId : UInt64) (req : Request) :
    List (Plugin π) → Prog π (Result (Bool × Option Response) × Request)
  | [] => return (.ok (true, none), req)
  | plugin :: rest => do
    match ← plugin.handleRequest requestId req with
    | (.error e, req) => return (.error e, req)
    | (.ok (false, response), req) => return (.ok (false, response), req)
    | (.ok (true, _), req) => handleRequestLoop requestId req rest

/-- `PluginManager::handle_request`. -/
def handleRequest (pm : PluginManager π) (requestId : UInt64) (req : Request) :
    Prog π (Result (Bool × Option Response) × Request) :=
  handleRequestLoop requestId req pm.plugins

/-- The loop of `handle_response`. -/
def handleResponseLoop (requestId : UInt64) (req : Request) (resp : Response) :
    List (Plugin π) → Prog π (Result Bool × Response)
  | [] => return (.ok true, resp)
  | plugin :: rest => do
    match ← plugin.handleResponse requestId req resp with
    | (.error e, resp) => return (.error e, resp)
    | (.ok false, resp) => return (.ok false, resp)
    | (.ok true, resp) => handleResponseLoop requestId req resp rest

/-- `PluginManager::handle_response`. Nothing in the proxy calls it. -/
def handleResponse (pm : PluginManager π) (requestId : UInt64) (req : Request)
    (resp : Response) : Prog π (Result Bool × Response) :=
  handleResponseLoop requestId req resp pm.plugins

/-- The loop of `handle_connect`. -/
def handleConnectLoop (requestId : UInt64) (req : Request) :
    List (Plugin π) → Prog π (Result (Bool × Option Response))
  | [] => return .ok (true, none)
  | plugin :: rest => do
    match ← plugin.handleConnect requestId req with
    | .error e => return .error e
    | .ok (false, response) => return .ok (false, response)
    | .ok (true, _) => handleConnectLoop requestId req rest

/-- `PluginManager::handle_connect`. -/
def handleConnect (pm : PluginManager π) (requestId : UInt64) (req : Request) :
    Prog π (Result (Bool × Option Response)) :=
  handleConnectLoop requestId req pm.plugins

/-- The loop of `handle_connect_close`. -/
def handleConnectCloseLoop (requestId : UInt64) (target : Str) :
    List (Plugin π) → Prog π (Result Bool)
  | [] => return .ok true
  | plugin :: rest => do
    match ← plugin.handleConnectClose requestId target with
    | .error e => return .error e
    | .ok false => return .ok false
    | .ok true => handleConnectCloseLoop requestId target rest

/-- `PluginManager::handle_connect_close`. -/
def handleConnectClose (pm : PluginManager π) (requestId : UInt64) (target : Str) :
    Prog π (Result Bool) :=
  handleConnectCloseLoop requestId target pm.plugins

/-- The loop of `handle_data`. -/
def handleDataLoop (requestId : UInt64) (direction : DataDirection) (data : List UInt8) :
    List (Plugin π) → Prog π (Result Unit)
  | [] => return .ok ()
  | plugin :: rest => do
    match ← plugin.handleData requestId direction data with
    | .error e => return .error e
    | .ok () => handleDataLoop requestId direction data rest

/-- `PluginManager::handle_data`. -/
def handleData (pm : PluginManager π) (requestId : UInt64) (direction : DataDirection)
    (data : List UInt8) : Prog π (Result Unit) :=
  handleDataLoop requestId direction data pm.plugins

end PluginManager

end Bifrost
