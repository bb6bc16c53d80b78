import Mathlib.Algebra.Order.Floor.Ring
import Mathlib.Data.Rat.Floor
import Mathlib.Logic.Function.Basic
import Waechter.Util.IPLinkMsg
import Waechter.Lib.UMap

/-!
# The commands of the helper process

What `waechter-iplink` (`Daemon/Net/IPLinkProc/IPLinkProc.cpp`) runs at its start and for a message,
as the words of its commands, the test of `SafeSystem` on them, and what they do to the HTB classes
and the mark filters of an interface when they succeed. Leaf queues, the ingress redirection and the
filters that do not match marks are not part of this state.

The numbers of classes stand as they are printed: `tc` reads them all in the same base.

* `setupHtbClass_eq`, `removeHtbClass_eq`: a message about an interface with a plain name passes the
  test, and all its commands are run.
-/

namespace Waechter

open Lib

/-- A rate as `tc` gets it. -/
inductive TcRate where
  | bit (n : Nat)
  | oneGbit
  deriving DecidableEq

namespace TcRate

def text : TcRate → String
  | .bit n => toString n ++ "bit"
  | .oneGbit => "1Gbit"

/-- In bits per second. -/
def bits : TcRate → Nat
  | .bit n => n
  | .oneGbit => 10 ^ 9

/-- `static_cast<uint64_t>(RateLimit * 8)`. -/
def ofLimit (limit : BytesPerSecond) : TcRate := .bit ⌊limit * 8⌋.toNat

end TcRate

/-- An HTB class of a device: the parent (0 is the qdisc itself), the rate and the ceiling. -/
structure HtbClass where
  parent : Nat
  rate : Nat
  ceil : Nat
  deriving DecidableEq

/-- The classes of the root qdisc of a device by minor number, and the classes its mark filters lead
to. -/
structure TcDevice where
  classes : UMap Nat HtbClass := ∅
  filters : UMap UInt32 Nat := ∅

/-- The devices by name. -/
abbrev TcState := String → TcDevice

/-- The commands that the process runs. -/
inductive Command where
  | linkDelete (dev : String)
  | linkAddIfb (dev : String)
  | linkSetTxqueuelen (dev : String)
  | linkSetUp (dev : String)
  | qdiscReplaceRoot (dev : String)
  | qdiscDeleteRoot (dev : String)
  | qdiscAddRoot (dev : String)
  | classReplace (dev : String) (parent minor : Nat) (rate : TcRate)
  | classDelete (dev : String) (minor : Nat)
  /-- The leaf queue of a class. -/
  | qdiscReplaceLeaf (dev : String) (minor : Nat)
  | defaultFilter (dev : String)
  | qdiscReplaceIngress (dev : String)
  | redirectFilter (dev target : String)
  | filterReplace (dev : String) (mark : UInt32) (minor : Nat)
  | filterDelete (dev : String) (mark : UInt32) (minor : Nat)

namespace Command

/-- `1:{}`. -/
def classid (minor : Nat) : String := "1:" ++ toString minor

/-- The parent of a class: `1:` or a class. -/
def parentText (parent : Nat) : String := if parent = 0 then "1:" else classid parent

/-- `0x{:x}`. -/
def hex (mark : UInt32) : String := "0x" ++ String.ofList (Nat.toDigits 16 mark.toNat)

/-- The words of a command, which a space separates. -/
def words : Command → List String
  | .linkDelete dev => ["ip", "link", "delete", dev]
  | .linkAddIfb dev => ["ip", "link", "add", dev, "type", "ifb"]
  | .linkSetTxqueuelen dev => ["ip", "link", "set", dev, "txqueuelen", "1000"]
  | .linkSetUp dev => ["ip", "link", "set", dev, "up"]
  | .qdiscReplaceRoot dev =>
    ["tc", "qdisc", "replace", "dev", dev, "root", "handle", "1:", "htb", "default", "0x10"]
  | .qdiscDeleteRoot dev => ["tc", "qdisc", "delete", "dev", dev, "root"]
  | .qdiscAddRoot dev =>
    ["tc", "qdisc", "add", "dev", dev, "root", "handle", "1:", "htb", "default", "0x10"]
  | .classReplace dev parent minor rate =>
    ["tc", "class", "replace", "dev", dev, "parent", parentText parent, "classid", classid minor,
      "htb", "rate", rate.text, "ceil", rate.text]
  | .classDelete dev minor => ["tc", "class", "delete", "dev", dev, "classid", classid minor]
  | .qdiscReplaceLeaf dev minor =>
    ["tc", "qdisc", "replace", "dev", dev, "parent", classid minor, "fq_codel"]
  | .defaultFilter dev =>
    ["tc", "filter", "replace", "dev", dev, "parent", "1:", "prio", "100", "protocol", "all", "u32",
      "match", "u32", "0", "0", "flowid", "1:10"]
  | .qdiscReplaceIngress dev => ["tc", "qdisc", "replace", "dev", dev, "handle", "ffff:", "ingress"]
  | .redirectFilter dev target =>
    ["tc", "filter", "replace", "dev", dev, "parent", "ffff:", "protocol", "all", "prio", "100",
      "matchall", "action", "mirred", "egress", "redirect", "dev", target]
  | .filterReplace dev mark minor =>
    ["tc", "filter", "replace", "dev", dev, "parent", "1:", "protocol", "ip", "pref", "1", "handle",
      hex mark, "fw", "classid", classid minor]
  | .filterDelete dev mark minor =>
    ["tc", "filter", "delete", "dev", dev, "parent", "1:", "protocol", "ip", "pref", "1", "handle",
      hex mark, "fw", "classid", classid minor]

/-- The devices that a command names. -/
def devs : Command → List String
  | .linkDelete dev | .linkAddIfb dev | .linkSetTxqueuelen dev | .linkSetUp dev
  | .qdiscReplaceRoot dev | .qdiscDeleteRoot dev | .qdiscAddRoot dev | .classReplace dev _ _ _
  | .classDelete dev _ | .qdiscReplaceLeaf dev _ | .defaultFilter dev | .qdiscReplaceIngress dev
  | .filterReplace dev _ _ | .filterDelete dev _ _ => [dev]
  | .redirectFilter dev target => [dev, target]

/-- The device with its changed state. -/
def on (dev : String) (f : TcDevice → TcDevice) (n : TcState) : TcState :=
  Function.update n dev (f (n dev))

/-- What a command does that succeeds. -/
def exec : Command → TcState → TcState
  | .linkDelete dev => on dev fun _ => {}
  | .qdiscDeleteRoot dev => on dev fun _ => {}
  | .classReplace dev parent minor rate =>
    on dev fun v => { v with classes := v.classes.insert minor ⟨parent, rate.bits, rate.bits⟩ }
  | .classDelete dev minor => on dev fun v => { v with classes := v.classes.erase minor }
  | .filterReplace dev mark minor =>
    on dev fun v => { v with filters := v.filters.insert mark minor }
  | .filterDelete dev mark _ => on dev fun v => { v with filters := v.filters.erase mark }
  | _ => id

end Command

namespace IPLinkProc

/-- The characters `SafeSystem` lets through. -/
def safeChar (c : Char) : Bool :=
  c.isAlphanum || c = ' ' || c = '_' || c = '-' || c = ':' || c = '='

/-- The characters `SanitizeInterfaceName` keeps. -/
def nameChar (c : Char) : Bool := c.isAlphanum || c = '_' || c = '-'

/-- `SafeSystem`: a command with another character is not run. -/
def safeSystem (command : Command) (n : TcState) : Bool × TcState :=
  if command.words.all fun word => word.toList.all safeChar then (true, command.exec n)
  else (false, n)

/-- Commands under `SYSFMT`: the first that fails ends the function. -/
def sysfmt : List Command → TcState → Bool × TcState
  | [], n => (true, n)
  | command :: rest, n =>
    match safeSystem command n with
    | (true, n) => sysfmt rest n
    | (false, n) => (false, n)

/-- `SanitizeInterfaceName`. -/
def sanitizeInterfaceName (ifName : String) : String :=
  String.ofList (ifName.toList.filter nameChar)

/-- `SetupHtbClass`. -/
def setupHtbClass (msg : SetupHtbClassMsg) (n : TcState) : Bool × TcState :=
  let ifName := sanitizeInterfaceName msg.interfaceName
  if msg.isRoot then
    sysfmt
      [.classReplace ifName 1 10 (.ofLimit msg.rateLimit), .qdiscReplaceLeaf ifName 10] n
  else
    sysfmt
      [.classReplace ifName 1 msg.minorId.toNat (.ofLimit msg.rateLimit),
       .qdiscReplaceLeaf ifName msg.minorId.toNat,
       .filterReplace ifName msg.mark msg.minorId.toNat] n

/-- `RemoveHtbClass`. -/
def removeHtbClass (msg : RemoveHtbClassMsg) (n : TcState) : Bool × TcState :=
  let ifName := sanitizeInterfaceName msg.interfaceName
  if msg.isRoot then sysfmt [.classReplace ifName 1 10 .oneGbit] n
  else
    -- `SYSFMT2` goes on after a failure
    sysfmt [.classDelete ifName msg.minorId.toNat]
      (safeSystem (.filterDelete ifName msg.mark msg.minorId.toNat) n).2

/-- The setup of the IFB device, which gets the ingress traffic. -/
def ingressSetup (ifbDev ingressInterface : String) : List Command :=
  [.linkSetTxqueuelen ifbDev, .linkSetUp ifbDev, .qdiscReplaceRoot ifbDev,
   .classReplace ifbDev 0 1 .oneGbit, .classReplace ifbDev 1 10 .oneGbit,
   .qdiscReplaceLeaf ifbDev 10, .defaultFilter ifbDev, .qdiscReplaceIngress ingressInterface,
   .redirectFilter ingressInterface ifbDev]

/-- The setup of the actual network interface. -/
def egressSetup (mainInterface : String) : List Command :=
  [.qdiscAddRoot mainInterface, .classReplace mainInterface 0 1 .oneGbit,
   .classReplace mainInterface 1 10 .oneGbit, .qdiscReplaceLeaf mainInterface 10]

/-- `Init`. -/
def init (ifbDev ingressInterface mainInterface : String) (n : TcState) : Bool × TcState :=
  let n := (safeSystem (.linkDelete ifbDev) n).2
  let n := (safeSystem (.linkAddIfb ifbDev) n).2
  match sysfmt (ingressSetup ifbDev ingressInterface) n with
  | (false, n) => (false, n)
  | (true, n) =>
    sysfmt (egressSetup mainInterface) (safeSystem (.qdiscDeleteRoot mainInterface) n).2

/-- `ProcessMessage`, on the traffic control. -/
def processMessage (n : TcState) : IPLinkMsg → TcState
  | .setupHtbClass msg => (setupHtbClass msg n).2
  | .removeHtbClass msg => (removeHtbClass msg n).2
  | .exit | .lookupEndpoints _ => n

/-! ## What passes `SafeSystem` -/

/-- A name of letters, digits, dashes and underscores. -/
def Plain (name : String) : Prop := ∀ c ∈ name.toList, nameChar c = true

instance (name : String) : Decidable (Plain name) :=
  List.decidableBAll (fun c => nameChar c = true) name.toList

/-- `SafeSystem` lets the word through. -/
def SafeWord (word : String) : Prop := word.toList.all safeChar = true

instance (word : String) : Decidable (SafeWord word) := inferInstanceAs (Decidable (_ = _))

theorem SafeWord.append {a b : String} (ha : SafeWord a) (hb : SafeWord b) : SafeWord (a ++ b) := by
  rw [SafeWord, String.toList_append, List.all_append, ha, hb]
  rfl

theorem Plain.safeWord {name : String} (h : Plain name) : SafeWord name := by
  refine List.all_eq_true.mpr fun c hc => ?_
  have hname := h c hc
  simp only [nameChar, Bool.or_eq_true, decide_eq_true_eq] at hname
  rcases hname with (hname | hname) | hname <;> simp [safeChar, hname]

theorem Plain.sanitize {name : String} (h : Plain name) : sanitizeInterfaceName name = name := by
  rw [sanitizeInterfaceName, List.filter_eq_self.mpr h, String.ofList_toList]

theorem safeChar_digitChar : ∀ d < 16, safeChar (Nat.digitChar d) = true := by decide

theorem safeWord_toDigits {b : Nat} (hb : 1 < b) (hb16 : b ≤ 16) (n : Nat) :
    ∀ c ∈ Nat.toDigits b n, safeChar c = true := by
  induction n using Nat.strongRecOn with
  | ind n ih =>
    intro c hc
    rw [Nat.toDigits_eq_if hb] at hc
    split at hc
    · rename_i hlt
      rw [List.mem_singleton.mp hc]
      exact safeChar_digitChar n (Nat.lt_of_lt_of_le hlt hb16)
    · rename_i hge
      rcases List.mem_append.mp hc with hc | hc
      · exact ih (n / b) (Nat.div_lt_self (by omega) hb) c hc
      · rw [List.mem_singleton.mp hc]
        have hlt := Nat.mod_lt n (Nat.lt_of_succ_lt hb)
        exact safeChar_digitChar _ (Nat.lt_of_lt_of_le hlt hb16)

theorem safeWord_toString (n : Nat) : SafeWord (toString n) := by
  refine List.all_eq_true.mpr fun c hc => ?_
  rw [Nat.toString_eq_ofList_toDigits, String.toList_ofList] at hc
  exact safeWord_toDigits (by decide) (by decide) n c hc

theorem safeWord_classid (minor : Nat) : SafeWord (Command.classid minor) :=
  SafeWord.append (by decide) (safeWord_toString minor)

theorem safeWord_parentText (parent : Nat) : SafeWord (Command.parentText parent) := by
  unfold Command.parentText
  split
  · decide
  · exact safeWord_classid parent

theorem safeWord_hex (mark : UInt32) : SafeWord (Command.hex mark) := by
  refine SafeWord.append (by decide) (List.all_eq_true.mpr fun c hc => ?_)
  rw [String.toList_ofList] at hc
  exact safeWord_toDigits (by decide) (by decide) _ c hc

theorem safeWord_text (rate : TcRate) : SafeWord rate.text := by
  cases rate with
  | bit n => exact (safeWord_toString n).append (by decide)
  | oneGbit => decide

/-- A command about devices with plain names is run. -/
theorem safeWords {command : Command} (h : ∀ dev ∈ command.devs, Plain dev) :
    ∀ word ∈ command.words, SafeWord word := by
  cases command with
  | redirectFilter dev target =>
    simp only [Command.devs, List.forall_mem_cons] at h
    simp only [Command.words, List.forall_mem_cons, h.1.safeWord, h.2.1.safeWord, true_and]
    and_intros <;> decide
  | _ =>
    simp only [Command.devs, List.forall_mem_singleton] at h
    simp only [Command.words, List.forall_mem_cons, h.safeWord, safeWord_classid,
      safeWord_parentText, safeWord_hex, safeWord_text, true_and]
    and_intros <;> decide

theorem safeSystem_eq {command : Command} (h : ∀ dev ∈ command.devs, Plain dev) (n : TcState) :
    safeSystem command n = (true, command.exec n) :=
  if_pos (List.all_eq_true.mpr (safeWords h))

theorem sysfmt_eq : ∀ {commands : List Command},
    (∀ command ∈ commands, ∀ dev ∈ command.devs, Plain dev) → ∀ n : TcState,
      sysfmt commands n = (true, commands.foldl (fun n command => command.exec n) n)
  | [], _, _ => rfl
  | command :: rest, h, n => by
    rw [List.forall_mem_cons] at h
    rw [sysfmt, safeSystem_eq h.1, List.foldl_cons, ← sysfmt_eq h.2]

/-! ## What a message does -/

theorem on_on (dev : String) (f g : TcDevice → TcDevice) (n : TcState) :
    Command.on dev g (Command.on dev f n) = Command.on dev (fun v => g (f v)) n := by
  simp only [Command.on, Function.update_self, Function.update_idem]

/-- A class at a rate of its own. -/
def classAt (rate : TcRate) : HtbClass := ⟨1, rate.bits, rate.bits⟩

/-- A limit sets up its class and its filter, the one of the root changes class 10. -/
theorem processMessage_setup {msg : SetupHtbClassMsg} (h : Plain msg.interfaceName) (n : TcState) :
    processMessage n (.setupHtbClass msg) =
      Command.on msg.interfaceName (fun v =>
        if msg.isRoot then { v with classes := v.classes.insert 10 (classAt (.ofLimit msg.rateLimit)) }
        else
          { classes := v.classes.insert msg.minorId.toNat (classAt (.ofLimit msg.rateLimit))
            filters := v.filters.insert msg.mark msg.minorId.toNat }) n := by
  simp only [processMessage, setupHtbClass, h.sanitize]
  split
  · rw [sysfmt_eq fun command hcommand dev hdev => ?_]
    · rfl
    · simp only [List.mem_cons, List.not_mem_nil, or_false] at hcommand
      rcases hcommand with rfl | rfl <;> exact List.mem_singleton.mp hdev ▸ h
  · rw [sysfmt_eq fun command hcommand dev hdev => ?_]
    · simp only [List.foldl_cons, List.foldl_nil, Command.exec, id, on_on]
      rfl
    · simp only [List.mem_cons, List.not_mem_nil, or_false] at hcommand
      rcases hcommand with rfl | rfl | rfl <;> exact List.mem_singleton.mp hdev ▸ h

theorem processMessage_remove {msg : RemoveHtbClassMsg} (h : Plain msg.interfaceName) (n : TcState) :
    processMessage n (.removeHtbClass msg) =
      Command.on msg.interfaceName (fun v =>
        if msg.isRoot then { v with classes := v.classes.insert 10 (classAt .oneGbit) }
        else
          { classes := v.classes.erase msg.minorId.toNat
            filters := v.filters.erase msg.mark }) n := by
  have hplain {command : Command} (hdevs : command.devs = [msg.interfaceName]) :
      ∀ dev ∈ command.devs, Plain dev := fun dev hdev =>
    List.mem_singleton.mp (hdevs ▸ hdev) ▸ h
  simp only [processMessage, removeHtbClass, h.sanitize]
  split
  · rw [sysfmt_eq fun command hcommand => hplain (List.mem_singleton.mp hcommand ▸ rfl)]
    rfl
  · rw [safeSystem_eq (hplain rfl),
      sysfmt_eq fun command hcommand => hplain (List.mem_singleton.mp hcommand ▸ rfl)]
    simp only [List.foldl_cons, List.foldl_nil, Command.exec, on_on]

/-- A device after `Init`. -/
def freshDevice : TcDevice where
  classes := ((∅ : UMap Nat HtbClass).insert 1 ⟨0, 10 ^ 9, 10 ^ 9⟩).insert 10 (classAt .oneGbit)

theorem init_eq {ifbDev ingressInterface mainInterface : String} (hifb : Plain ifbDev)
    (hingress : Plain ingressInterface) (hmain : Plain mainInterface) (n : TcState) :
    init ifbDev ingressInterface mainInterface n =
      (true, Command.on mainInterface (fun _ => freshDevice)
        (Command.on ifbDev (fun _ => freshDevice) n)) := by
  have hplain {name : String} (h : Plain name) {command : Command} (hdevs : command.devs = [name]) :
      ∀ dev ∈ command.devs, Plain dev := fun dev hdev =>
    List.mem_singleton.mp (hdevs ▸ hdev) ▸ h
  have hin (n : TcState) : sysfmt (ingressSetup ifbDev ingressInterface) n =
      (true, (ingressSetup ifbDev ingressInterface).foldl (fun n command => command.exec n) n) := by
    refine sysfmt_eq ?_ n
    simp only [ingressSetup, List.forall_mem_cons, Command.devs, List.not_mem_nil, false_implies,
      implies_true, hifb, hingress, and_self]
  have hout (n : TcState) : sysfmt (egressSetup mainInterface) n =
      (true, (egressSetup mainInterface).foldl (fun n command => command.exec n) n) := by
    refine sysfmt_eq ?_ n
    simp only [egressSetup, List.forall_mem_cons, Command.devs, List.not_mem_nil, false_implies,
      implies_true, and_true, hmain]
  simp only [init]
  rw [safeSystem_eq (hplain hifb rfl), safeSystem_eq (hplain hifb rfl), hin]
  simp only
  rw [safeSystem_eq (hplain hmain rfl), hout]
  simp only [ingressSetup, egressSetup, List.foldl_cons, List.foldl_nil, Command.exec, id, on_on]
  rfl

end IPLinkProc

end Waechter
