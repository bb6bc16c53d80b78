import Mathlib.Data.List.Basic
import Waechter.Lib.Decimal
import Waechter.Lib.Run

/-!
# The configuration of the daemon

`WDaemonConfig` (`Daemon/DaemonConfig.cpp`) reads its fields from an INI file when the daemon
starts and writes them back at once. The two lists of what the connection history leaves out are
joined into one text each. `Load` reads the text of the ports into the variable of the application
names, so it splits that one into names, and no port is ever read.

The file is a parameter: `file ini` is what reading gives after `ini` was written.

* `load_write_lists`: after a restart the names are the ports, and there are no ports.
* `always_lists_iff`: restarts keep both lists exactly when both are empty.
-/

namespace Waechter

namespace DaemonConfig

open Lib.Decimal

/-- The values of the file are texts. -/
abbrev Text := List Char

/-- `mINI::INIStructure`: sections of named values. -/
abbrev Ini := List (Text × List (Text × Text))

/-- `Ini[Section][Name]`, when the file has it. -/
def Ini.get (ini : Ini) (section_ name : Text) : Option Text :=
  (ini.lookup section_).bind (·.lookup name)

/-- `WStringFormat::SplitString`. -/
def splitString (str : Text) (delimiter : Char) : List Text :=
  if str = [] then [] else str.splitOn delimiter

/-- `WStringFormat::JoinStrings`. -/
def joinStrings {α : Type} (toText : α → Text) (xs : List α) (delimiter : Char) : Text :=
  [delimiter, ' '].intercalate (xs.map toText)

/-- `std::to_string`. -/
def toString (n : Nat) : Text := Nat.toDigits 10 n

end DaemonConfig

open DaemonConfig in
/-- `WDaemonConfig`. -/
structure DaemonConfig where
  networkInterfaceName : Text := []
  ingressNetworkInterfaceName : Text := []
  cGroupPath : Text := "/sys/fs/cgroup".toList
  daemonUser : Text := "nobody".toList
  daemonGroup : Text := "nogroup".toList
  daemonSocketPath : Text := "/var/run/waechterd.sock".toList
  ipLinkProcSocketPath : Text := "/var/run/waechter-iplink.sock".toList
  webSocketAuthToken : Text := []
  ignoredConnectionHistoryApps : List Text := []
  ignoredConnectionHistoryPorts : List UInt16 := []
  bFirstTimeSetupRun : Bool := false
  daemonSocketMode : UInt32 := 0o660
  configPath : Text := []
  deriving DecidableEq

namespace DaemonConfig

open Lib.Decimal

/-- What a start finds: the network interfaces, what the random generator gives, and the path of
the file. -/
structure Start where
  interfaces : List Text
  randomHexString : Text
  path : Text

/-- `SetDefaults` on a new object. -/
def setDefaults (start : Start) : DaemonConfig :=
  let name :=
    match start.interfaces with
    | _ :: second :: _ => second
    | [first] => first
    | [] => "eth0".toList
  { networkInterfaceName := name, ingressNetworkInterfaceName := name }

/-- `SafeGet`. -/
def safeGet (ini : Ini) (section_ name outVal : Text) : Text := (ini.get section_ name).getD outVal

/-- `SafeGetInt`. -/
def safeGetInt (ini : Ini) (section_ name : Text) (outVal : Int) : Int :=
  let strVal := safeGet ini section_ name []
  if strVal ≠ [] then
    match stoi strVal with
    | .ok i => i
    | .error _ => outVal
  else outVal

/-- `SafeGetBool`. -/
def safeGetBool (ini : Ini) (section_ name : Text) : Bool :=
  safeGet ini section_ name [] = "true".toList

/-- The loop over the ports: a text that is no number is left out. -/
def parsePorts (texts : List Text) : List UInt16 :=
  texts.filterMap fun portStr =>
    match stoul portStr with
    | .ok port => some (UInt16.ofNat port)
    | .error _ => none

/-- `Load`. Both lists of what is ignored are read into the variable of the application names. -/
def load (cfg : DaemonConfig) (start : Start) (ini : Ini) : DaemonConfig :=
  let network := "network".toList
  let daemon := "daemon".toList
  let configured := safeGet ini network "interface".toList cfg.networkInterfaceName
  let configuredIngress :=
    safeGet ini network "ingress_interface".toList cfg.ingressNetworkInterfaceName
  let networkInterfaceName :=
    if configured = "auto".toList then
      (start.interfaces.find? (· ≠ "lo".toList)).getD configured
    else configured
  let socketMode :=
    safeGetInt ini daemon "socket_permissions".toList (cfg.daemonSocketMode.toBitVec.toInt)
  let token := safeGet ini daemon "websocket_auth_token".toList cfg.webSocketAuthToken
  let appNamesStr := safeGet ini daemon "ignored_connection_history_app_names".toList []
  let appNamesStr := safeGet ini daemon "ignored_connection_history_remote_ports".toList appNamesStr
  let portsStr := []
  { networkInterfaceName
    ingressNetworkInterfaceName :=
      if configuredIngress = "auto".toList then networkInterfaceName else configuredIngress
    cGroupPath := safeGet ini network "cgroup_path".toList cfg.cGroupPath
    daemonUser := safeGet ini daemon "user".toList cfg.daemonUser
    daemonGroup := safeGet ini daemon "group".toList cfg.daemonGroup
    daemonSocketPath := safeGet ini daemon "socket_path".toList cfg.daemonSocketPath
    ipLinkProcSocketPath :=
      safeGet ini daemon "ip_proc_socket_path".toList cfg.ipLinkProcSocketPath
    webSocketAuthToken :=
      if token = [] ∨ token = "change_me".toList then start.randomHexString else token
    ignoredConnectionHistoryApps := splitString appNamesStr ';'
    ignoredConnectionHistoryPorts :=
      cfg.ignoredConnectionHistoryPorts ++ parsePorts (splitString portsStr ';')
    bFirstTimeSetupRun := safeGetBool ini daemon "first_time_setup_run".toList
    daemonSocketMode := UInt32.ofInt socketMode
    configPath := start.path }

/-- `Write`: the structure that is written. -/
def write (cfg : DaemonConfig) : Ini :=
  [ ("network".toList,
      [ ("interface".toList, cfg.networkInterfaceName),
        ("ingress_interface".toList, cfg.ingressNetworkInterfaceName),
        ("cgroup_path".toList, cfg.cGroupPath) ]),
    ("daemon".toList,
      [ ("user".toList, cfg.daemonUser),
        ("group".toList, cfg.daemonGroup),
        ("socket_path".toList, cfg.daemonSocketPath),
        ("ip_proc_socket_path".toList, cfg.ipLinkProcSocketPath),
        ("websocket_auth_token".toList, cfg.webSocketAuthToken),
        ("socket_permissions".toList, toString cfg.daemonSocketMode.toNat),
        ("ignored_connection_history_app_names".toList,
          joinStrings id cfg.ignoredConnectionHistoryApps ';'),
        ("ignored_connection_history_remote_ports".toList,
          joinStrings (fun port : UInt16 => toString port.toNat)
            cfg.ignoredConnectionHistoryPorts ';'),
        ("first_time_setup_run".toList,
          if cfg.bFirstTimeSetupRun then "true".toList else "false".toList) ]) ]

/-- `Write`, and `Load` into a fresh configuration: what a restart does. -/
def restart (file : Ini → Ini) (cfg : DaemonConfig) (start : Start) : DaemonConfig :=
  load (setDefaults start) start (file cfg.write)

/-- The library returns the values that were stored. -/
def Returns (file : Ini → Ini) : Prop :=
  ∀ (ini : Ini) (section_ name : Text), (file ini).get section_ name = ini.get section_ name

/-- The two lists of what the connection history leaves out. -/
def lists (cfg : DaemonConfig) : List Text × List UInt16 :=
  (cfg.ignoredConnectionHistoryApps, cfg.ignoredConnectionHistoryPorts)

/-! ## Texts -/

/-- The digits of a number are no separator. -/
theorem not_mem_toString (n : Nat) : ';' ∉ toString n := by
  intro h
  exact absurd (Nat.isDigit_of_mem_toDigits (by decide) (by decide) h) (by decide)

/-- Texts behind the first one start with the blank of the separator. -/
def spaced : List Text → List Text
  | [] => []
  | text :: texts => text :: texts.map (' ' :: ·)

/-- A separator with a blank is a separator with the blank in the text behind it. -/
theorem intercalate_spaced (delimiter : Char) : ∀ texts : List Text,
    [delimiter, ' '].intercalate texts = [delimiter].intercalate (spaced texts)
  | [] => rfl
  | [text] => by simp [spaced, List.intercalate]
  | text :: next :: texts => by
    have hrest := intercalate_spaced delimiter (next :: texts)
    simp only [spaced, List.intercalate, List.intersperse, List.map_cons, List.flatten_cons]
      at hrest ⊢
    cases texts with
    | nil => simp
    | cons => simpa using hrest

theorem not_mem_spaced {delimiter : Char} (hblank : delimiter ≠ ' ') {texts : List Text}
    (h : ∀ text ∈ texts, delimiter ∉ text) : ∀ text ∈ spaced texts, delimiter ∉ text := by
  cases texts with
  | nil => exact h
  | cons first texts =>
    rw [List.forall_mem_cons] at h
    rw [spaced, List.forall_mem_cons, List.forall_mem_map]
    exact ⟨h.1, fun text htext => List.not_mem_cons_of_ne_of_not_mem hblank (h.2 text htext)⟩

/-- `JoinStrings` puts a blank where `SplitString` does not take one away. -/
theorem splitString_joinStrings {α : Type} (toText : α → Text) {xs : List α}
    (htext : ∀ x ∈ xs, ';' ∉ toText x ∧ toText x ≠ []) :
    splitString (joinStrings toText xs ';') ';' = spaced (xs.map toText) := by
  cases xs with
  | nil => rfl
  | cons x xs =>
    have hne : joinStrings toText (x :: xs) ';' ≠ [] := by
      have hx := (htext x List.mem_cons_self).2
      cases xs <;> simp [joinStrings, List.intercalate, hx]
    have hpieces : ∀ text ∈ spaced ((x :: xs).map toText), ';' ∉ text := by
      refine not_mem_spaced (by decide) ?_
      rw [List.forall_mem_map]
      exact fun y hy => (htext y hy).1
    rw [splitString, if_neg hne, joinStrings, intercalate_spaced]
    exact List.splitOn_intercalate ';' hpieces (List.cons_ne_nil _ _)

/-! ## Restarts -/

variable {file : Ini → Ini}

/-- A restart takes the ports for the names, and has no ports. -/
theorem lists_restart (hfile : Returns file) (cfg : DaemonConfig) (start : Start) :
    (restart file cfg start).lists =
      (spaced (cfg.ignoredConnectionHistoryPorts.map fun port => toString port.toNat), []) := by
  have hports : safeGet (file cfg.write) "daemon".toList
      "ignored_connection_history_remote_ports".toList
      (safeGet (file cfg.write) "daemon".toList "ignored_connection_history_app_names".toList []) =
      joinStrings (fun port : UInt16 => toString port.toNat)
        cfg.ignoredConnectionHistoryPorts ';' := by
    rw [safeGet, hfile]
    rfl
  have htext : ∀ port ∈ cfg.ignoredConnectionHistoryPorts,
      ';' ∉ toString port.toNat ∧ toString port.toNat ≠ [] :=
    fun port _ => ⟨not_mem_toString _, Nat.toDigits_ne_nil⟩
  refine Prod.ext ?_ rfl
  show splitString (safeGet _ _ _ _) ';' = _
  rw [hports, splitString_joinStrings _ htext]

/-- After two restarts nothing is ignored. -/
theorem lists_restart_restart (hfile : Returns file) (cfg : DaemonConfig) (first second : Start) :
    (restart file (restart file cfg first) second).lists = ([], []) := by
  have hports : (restart file cfg first).ignoredConnectionHistoryPorts = [] :=
    congrArg Prod.snd (lists_restart hfile cfg first)
  rw [lists_restart hfile, hports]
  rfl

/-- A name that the file can hold: not empty, and without semicolons and outer blanks. -/
def PlainName (name : Text) : Prop :=
  name ≠ [] ∧ ';' ∉ name ∧ name.head? ≠ some ' ' ∧ name.getLast? ≠ some ' '

instance (name : Text) : Decidable (PlainName name) := inferInstanceAs (Decidable (_ ∧ _))

/-- **Restarts keep the two lists** exactly when there is nothing in them. -/
theorem always_lists_iff (hfile : Returns file) (cfg : DaemonConfig) (start : Start)
    (starts : List Start) :
    Lib.Always (restart file) (fun c => c.lists = cfg.lists) cfg (start :: starts) ↔
      cfg.ignoredConnectionHistoryApps = [] ∧ cfg.ignoredConnectionHistoryPorts = [] := by
  constructor
  · intro h
    have hfirst := h.2.head
    rw [lists_restart hfile] at hfirst
    obtain ⟨happs, hports⟩ := Prod.mk.inj hfirst
    rw [← hports] at happs
    exact ⟨happs.symm, hports.symm⟩
  · rintro ⟨happs, hports⟩
    have hlists : cfg.lists = ([], []) := Prod.ext happs hports
    refine Lib.always_of_step (I := fun c => c.lists = ([], [])) ?_ ?_ _ hlists
    · exact fun c hc => hc.trans hlists.symm
    · intro c start hc
      rw [lists_restart hfile, (Prod.mk.inj hc).2]
      rfl

def someStart : Start := { interfaces := [], randomHexString := [], path := [] }

/-- An application and a port that are ignored. -/
def firefox443 : DaemonConfig :=
  { setDefaults someStart with
    ignoredConnectionHistoryApps := ["firefox".toList]
    ignoredConnectionHistoryPorts := [443] }

theorem always_lists_firefox :
    Returns id ∧
      (Lib.Always (restart id) (fun c => c.lists = firefox443.lists) firefox443 [someStart] ↔
        firefox443.ignoredConnectionHistoryApps = [] ∧
          firefox443.ignoredConnectionHistoryPorts = []) :=
  ⟨fun _ _ _ => rfl, always_lists_iff (fun _ _ _ => rfl) firefox443 someStart []⟩

/-- The port comes back as the name of an application. -/
theorem restart_changes_lists :
    (∀ name ∈ firefox443.ignoredConnectionHistoryApps, PlainName name) ∧ Returns id ∧
      (restart id firefox443 someStart).lists = (["443".toList], []) ∧
      ¬ Lib.Always (restart id) (fun c => c.lists = firefox443.lists) firefox443 [someStart] := by
  have hlists : (restart id firefox443 someStart).lists = (["443".toList], []) := by decide
  refine ⟨by decide, fun _ _ _ => rfl, hlists, fun h => ?_⟩
  exact absurd (hlists.symm.trans h.2.head) (by decide)

end DaemonConfig

end Waechter
