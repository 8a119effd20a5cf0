import CompileSession.Config.Basic
import CompileSession.Session.Basic

/-!
# Making sessions

A new session tells its engine the output mode.  A configuration is applied as a list of calls, up
to the first one that fails; macros are defined once all of them succeeded.
-/

namespace CompileSession

def greatestPool : Nat := 65535

/-- The workers of a session: at least one, and none at all for sessions that cannot run. -/
def poolOf (mode : OutputMode) (workers : UInt64) : Except String Nat :=
  if mode.canRun then .ok (min (max workers.toNat 1) greatestPool)
  else .error (mode.text ++ " session has no compile pool")

/-- The options for hosts on which compiled code cannot use shared libraries. -/
def staticOptions : String := "-nostdlib"

namespace Session

variable {η σ : Type}

/-- Logs that an engine would not take something; the session is made all the same. -/
def noteRejection (what : String) (fields : List (String × Log.Value)) (status : Status)
    (site : Site η σ) : Site η σ :=
  if status.isErr then
    site.log .warn ("engine rejected " ++ what)
      (site.idField :: fields ++ [("status", .number status.code.toInt)])
  else site

/-- Restricts a session to what its host can do. -/
def restrict (engine : Engine η σ) (site : Site η σ) : Reply Unit × Site η σ :=
  if site.host.dynamicLinking then (.returned (), site)
  else
    let site := site.log .debug ("host lacks dynamic linking, applying " ++ staticOptions)
      [site.idField]
    match site.perform engine none (.setOptions staticOptions) with
    | (.returned status, site) => (.returned (), noteRejection staticOptions [] status site)
    | (.panicked panic, site) => (.panicked panic, site)

/-- Makes a session.  Its number is used up even if the engine gives up. -/
def create (engine : Engine η σ) (state : σ) (mode : OutputMode) (workers : UInt64)
    (delivery : Delivery) (host : Host η) : Reply Unit × Site η σ :=
  let site : Site η σ := {
    host := { host with nextSession := host.nextSession + 1 }
    session := { id := host.nextSession, mode, delivery, pool := poolOf mode workers,
                 engine := state } }
  let modeField := ("mode", Log.Value.word mode.text)
  match site.perform engine none (.setOutputType mode) with
  | (.panicked panic, site) => (.panicked panic, site)
  | (.returned status, site) =>
    match restrict engine (noteRejection "output mode" [modeField] status site) with
    | (.panicked panic, site) => (.panicked panic, site)
    | (.returned (), site) =>
      (.returned (), site.log .info "session created"
        [site.idField, modeField, ("workers", .number workers.toNat),
          ("delivery", .word delivery.label)])

end Session

namespace SessionConfig

/-- The calls that apply a configuration, macros apart. -/
def settings (config : SessionConfig) : List (Call .status) :=
  (config.libPath.map fun path => Call.setLibPath path.display).toList ++
    (config.options.map Call.setOptions).toList ++
    config.includePaths.map (fun path => Call.addIncludePath path.display) ++
    config.sysincludePaths.map (fun path => Call.addSysincludePath path.display) ++
    config.libraryPaths.map (fun path => Call.addLibraryPath path.display) ++
    config.libraries.map Call.addLibrary

/-- The calls that define a configuration's macros. -/
def definitions (config : SessionConfig) : List (Call .done) :=
  config.defines.entries.map fun entry => Call.defineSymbol entry.1 entry.2

end SessionConfig

namespace Session

variable {η σ : Type}

def applySettings (engine : Engine η σ) :
    List (Call .status) → Site η σ → Reply (Except SessionError Unit) × Site η σ
  | [], site => (.returned (.ok ()), site)
  | call :: rest, site =>
    match site.checked engine call with
    | (.panicked panic, site) => (.panicked panic, site)
    | (.returned status, site) =>
      if status.isErr then (.returned (.error (.configure call.text status)), site)
      else applySettings engine rest site

def applyDefinitions (engine : Engine η σ) :
    List (Call .done) → Site η σ → Reply Unit × Site η σ
  | [], site => (.returned (), site)
  | call :: rest, site =>
    match site.call engine call with
    | (.panicked panic, site) => (.panicked panic, site)
    | (.returned (), site) => applyDefinitions engine rest site

/-- Makes a session and applies a configuration to it. -/
def createConfigured (engine : Engine η σ) (state : σ) (config : SessionConfig) (host : Host η) :
    Reply (Except SessionError Unit) × Site η σ :=
  match create engine state config.mode config.workers config.delivery host with
  | (.panicked panic, site) => (.panicked panic, site)
  | (.returned (), site) =>
    match applySettings engine config.settings site with
    | (.returned (.ok ()), site) =>
      match applyDefinitions engine config.definitions site with
      | (.panicked panic, site) => (.panicked panic, site)
      | (.returned (), site) => (.returned (.ok ()), site)
    | other => other

end Session

end CompileSession
