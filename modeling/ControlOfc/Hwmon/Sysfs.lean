import Mathlib.Data.List.Nodup
import Mathlib.Order.Basic
/-! # The sysfs files behind a header (hwmon/pwm_discovery.rs, `SysfsWriter`)

A driver answers a read with whatever it likes and may fail a write that took effect, so `Sysfs` leaves
every answer open. It also says at which access the shutdown hand-back begins: the mark is a lock-free
flag set from another thread, so it can be set between any two accesses of a command.

* `Bus` — the accesses made so far: their count, which is the time, and every write among them.
* `Bus.Wrote P` — from one bus to a later one, with only writes `P` allows between.
-/
namespace ControlOfc.Hwmon

/-- A file of an hwmon directory: `hwmon_dir.join(name)`. -/
structure SysfsPath where
  dir : String
  file : String
  deriving DecidableEq, Repr

/-- `PwmHeaderDescriptor` (pwm_discovery.rs:12), as far as writing a header goes. -/
structure PwmHeaderDescriptor where
  id : String
  chipName : String
  supportsEnable : Bool
  pwmPath : SysfsPath
  enablePath : Option SysfsPath
  isWritable : Bool
  /-- Discovery names the mode switch exactly where it found one (pwm_discovery.rs:229). -/
  enable_iff : supportsEnable = enablePath.isSome
  deriving DecidableEq

/-- The discovered headers, as the controller holds them: one descriptor per id. -/
structure Headers where
  list : List PwmHeaderDescriptor
  nodup : (list.map (·.id)).Nodup

def Headers.get? (hs : Headers) (id : String) : Option PwmHeaderDescriptor := hs.list.find? (·.id = id)

theorem Headers.id_of_get? {hs : Headers} {id : String} {h : PwmHeaderDescriptor} (hh : hs.get? id = some h) :
    h.id = id := by
  simpa using List.find?_some hh

theorem Headers.mem_of_get? {hs : Headers} {id : String} {h : PwmHeaderDescriptor} (hh : hs.get? id = some h) :
    h ∈ hs.list := List.mem_of_find?_eq_some hh

theorem Headers.get?_of_mem {hs : Headers} {h : PwmHeaderDescriptor} (hh : h ∈ hs.list) :
    hs.get? h.id = some h := by
  obtain ⟨h', hf⟩ := Option.isSome_iff_exists.mp
    (List.find?_isSome.mpr ⟨h, hh, by simp⟩ : (hs.list.find? (·.id = h.id)).isSome)
  rw [get?, hf, List.inj_on_of_nodup_map hs.nodup (List.mem_of_find?_eq_some hf) hh (by simpa using List.find?_some hf)]

/-- `HwmonError` (error.rs:32); a failed read is only ever turned into "not known". -/
inductive HwmonError where
  | writeError (path : SysfsPath) (message : String)
  deriving DecidableEq, Repr

inductive Attr where
  | enable
  | duty
  deriving DecidableEq, Repr

/-- One `write_file`: the access it was, and the value it put in which of a header's files. -/
structure SysfsWrite where
  tick : Nat
  header : String
  attr : Attr
  value : Nat
  deriving DecidableEq, Repr

/-- What the files answer, by the number of the access. -/
structure Sysfs where
  /-- A read that parses, as the `u8` it parses to. -/
  read : Nat → SysfsPath → Option Nat
  /-- The error a write reports. -/
  fails : Nat → Option String
  /-- The access from which `begin_shutdown_hand_back` has run. -/
  handBackAt : Option Nat

/-- `shutdown_hand_back_begun` (handback.rs:369) at an access: once set, the mark stays. -/
def Sysfs.begun (env : Sysfs) (tick : Nat) : Bool := env.handBackAt.any (· ≤ tick)

theorem Sysfs.begun_mono {env : Sysfs} {s t : Nat} (h : s ≤ t) (hs : env.begun s) : env.begun t := by
  simp only [begun, Option.any_eq_true, decide_eq_true_eq] at hs ⊢
  obtain ⟨k, hk, hks⟩ := hs
  exact ⟨k, hk, Nat.le_trans hks h⟩

structure Bus where
  tick : Nat
  log : List SysfsWrite
  deriving DecidableEq, Repr

namespace Bus

/-- `read_file`, parsed as a `u8`. -/
def read (env : Sysfs) (b : Bus) (path : SysfsPath) : Option Nat × Bus :=
  (env.read b.tick path, { b with tick := b.tick + 1 })

/-- `write_file` to one of a header's files. -/
def write (env : Sysfs) (b : Bus) (header : String) (path : SysfsPath) (attr : Attr) (value : Nat) :
    Option HwmonError × Bus :=
  ((env.fails b.tick).map (.writeError path), ⟨b.tick + 1, b.log ++ [⟨b.tick, header, attr, value⟩]⟩)

/-- Loading the hand-back mark. -/
def check (env : Sysfs) (b : Bus) : Bool × Bus := (env.begun b.tick, { b with tick := b.tick + 1 })

/-- The writes of `b'` that `b` had not seen. -/
def since (b b' : Bus) : List SysfsWrite := b'.log.drop b.log.length

theorem since_of_append {b b' : Bus} {ws : List SysfsWrite} (h : b'.log = b.log ++ ws) : b.since b' = ws := by
  simp [since, h]

/-- `b'` comes after `b`, and every write in between is one `P` allows. -/
structure Wrote (P : SysfsWrite → Prop) (b b' : Bus) : Prop where
  tick : b.tick ≤ b'.tick
  log : ∃ ws, b'.log = b.log ++ ws ∧ ∀ w ∈ ws, P w

namespace Wrote

variable {P Q : SysfsWrite → Prop} {b b' b'' : Bus}

theorem refl (b : Bus) : Wrote P b b := ⟨Nat.le_refl _, [], by simp, nofun⟩

theorem trans (h : Wrote P b b') (h' : Wrote P b' b'') : Wrote P b b'' := by
  obtain ⟨ht, ws, hl, hw⟩ := h
  obtain ⟨ht', ws', hl', hw'⟩ := h'
  refine ⟨Nat.le_trans ht ht', ws ++ ws', by rw [hl', hl, List.append_assoc], fun w hm => ?_⟩
  rcases List.mem_append.mp hm with hm | hm
  · exact hw w hm
  · exact hw' w hm

theorem mono (h : Wrote P b b') (hPQ : ∀ w, P w → Q w) : Wrote Q b b' := by
  obtain ⟨ht, ws, hl, hw⟩ := h
  exact ⟨ht, ws, hl, fun w hm => hPQ w (hw w hm)⟩

theorem since (h : Wrote P b b') : ∀ w ∈ b.since b', P w := by
  obtain ⟨-, ws, hl, hw⟩ := h
  rw [since_of_append hl]
  exact hw

theorem log_eq (h : Wrote P b b') : b'.log = b.log ++ b.since b' := by
  obtain ⟨-, ws, hl, -⟩ := h
  rw [since_of_append hl, hl]

end Wrote

variable {P : SysfsWrite → Prop}

theorem wrote_read (env : Sysfs) (b : Bus) (path : SysfsPath) : Wrote P b (b.read env path).2 :=
  ⟨Nat.le_succ _, [], by simp [read], nofun⟩

theorem wrote_check (env : Sysfs) (b : Bus) : Wrote P b (b.check env).2 :=
  ⟨Nat.le_succ _, [], by simp [check], nofun⟩

theorem wrote_write (env : Sysfs) (b : Bus) (header : String) (path : SysfsPath) (attr : Attr) (value : Nat)
    (h : P ⟨b.tick, header, attr, value⟩) : Wrote P b (b.write env header path attr value).2 :=
  ⟨Nat.le_succ _, [⟨b.tick, header, attr, value⟩], rfl, by simpa using h⟩

end Bus

end ControlOfc.Hwmon
