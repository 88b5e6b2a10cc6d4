import ControlOfc.Lib.Asking
import ControlOfc.Lib.History
/-! # The Super-I/O port probe (hwmon/superio_probe.rs)

The ports are an arbitrary environment: a read answers any byte or fails, a write succeeds or fails, and one that
failed may have landed. Each write carries the sequence it is part of, which nothing reads.

A guard exits configuration mode on every way out of a leg. It is armed behind the enter sequence, so an enter write
that fails leaves without an exit.

Main theorem `probe_ports_careful`.
-/
namespace ControlOfc.Hwmon.SuperIo

/-- `SuperIoVendor` (hwmon/superio.rs:41). -/
inductive SuperIoVendor
  | ite
  | nuvoton
  | winbond
  | smsc
  | national
  | fintek
  | unknown
  deriving DecidableEq

/-- What a write is part of. -/
inductive Part
  | select
  | enter (vendor : SuperIoVendor)
  | exit (vendor : SuperIoVendor)
  deriving DecidableEq

inductive PortOp
  | read (port : UInt16)
  | write (port : UInt16) (value : UInt8) (part : Part)
  deriving DecidableEq

inductive Written
  | ok
  | failed (landed : Bool)
  deriving DecidableEq

@[reducible] def PortOp.Answer : PortOp → Type
  | .read _ => Option UInt8
  | .write .. => Written

/-- One port operation and how it ended. -/
abbrev Event := Σ op, PortOp.Answer op

abbrev saw (port : UInt16) (answer : Option UInt8) : Event := ⟨.read port, answer⟩

abbrev wrote (port : UInt16) (value : UInt8) (part : Part) (answer : Written) : Event := ⟨.write port value part, answer⟩

abbrev Ports := Asking PortOp PortOp.Answer Unit

/-- A probe of the ports, which an `io::Error` ends early. -/
abbrev Probe := Act Ports Unit

def readPort (port : UInt16) : Probe UInt8 := do
  let answer : Option UInt8 ← Asking.ask (PortOp.read port)
  match answer with
  | some value => pure value
  | none => Act.leave ()

def writePort (part : Part) (port : UInt16) (value : UInt8) : Probe Unit := do
  let answer : Written ← Asking.ask (PortOp.write port value part)
  match answer with
  | .ok => pure ()
  | .failed _ => Act.leave ()

def sioInb (base : UInt16) (reg : UInt8) : Probe UInt8 := do
  writePort .select base reg
  readPort (base + 1)

def devidOf (hi lo : UInt8) : UInt16 := hi.toUInt16 <<< 8 ||| lo.toUInt16

def sioDevid (base : UInt16) : Probe UInt16 := do
  let hi ← sioInb base 0x20
  let lo ← sioInb base 0x21
  pure (devidOf hi lo)

def iteEnter (base : UInt16) : Probe Unit := do
  writePort (.enter .ite) base 0x87
  writePort (.enter .ite) base 0x01
  writePort (.enter .ite) base 0x55
  writePort (.enter .ite) base (if base = 0x4e then 0xaa else 0x55)

def iteExit (base : UInt16) : Probe Unit := do
  writePort (.exit .ite) base 0x02
  writePort (.exit .ite) (base + 1) 0x02

def nuvotonEnter (base : UInt16) : Probe Unit := do
  writePort (.enter .nuvoton) base 0x87
  writePort (.enter .nuvoton) base 0x87

def nuvotonExit (base : UInt16) : Probe Unit := do
  writePort (.exit .nuvoton) base 0xaa
  writePort (.exit .nuvoton) base 0x02
  writePort (.exit .nuvoton) (base + 1) 0x02

/-! ## What a DEVID means -/

def it8883BridgeDevid : UInt16 := 0x8883

def isIteDevid (devid : UInt16) : Bool := devid ≠ it8883BridgeDevid && (0x86 : UInt16) ≤ devid >>> 8 && devid >>> 8 ≤ (0x88 : UInt16)

def isValidFamilyDevid (devid : UInt16) : Bool := devid ≠ 0xffff && devid ≠ 0x0000

def noResponse (devid : UInt16) : Bool := !isValidFamilyDevid devid

inductive DevidVerdict
  | bridge
  | iteChip
  | noResponse
  | unknownResponder
  deriving DecidableEq

def classifyDevid (devid : UInt16) : DevidVerdict :=
  if devid = it8883BridgeDevid then .bridge
  else if isIteDevid devid then .iteChip
  else if noResponse devid then .noResponse
  else .unknownResponder

structure ProbedChip where
  base : UInt16
  vendor : SuperIoVendor
  devid : UInt16
  chipName : Option String
  deriving DecidableEq

def bridgeReport (base devid : UInt16) : ProbedChip := ⟨base, .ite, devid, none⟩

/-- `it{devid:04x}`. -/
def iteChipName (devid : UInt16) : String := "it" ++ String.ofList ((Nat.toDigits 16 devid.toNat).leftpad 4 '0')

def iteReport (base devid : UInt16) : ProbedChip := ⟨base, .ite, devid, some (iteChipName devid)⟩

inductive NuvotonWithholdReason
  | iteOnlyBoard
  | gigabyteBoard
  deriving DecidableEq

structure NuvotonUnlockPolicy where
  withheld : Option NuvotonWithholdReason
  deriving DecidableEq

def NuvotonUnlockPolicy.permitsUnlock (policy : NuvotonUnlockPolicy) : Bool := policy.withheld.isNone

inductive BaseOutcome
  | chip (chip : ProbedChip)
  | nothing
  | nuvotonUnlockWithheld
  deriving DecidableEq

structure PortProbeOutcome where
  chips : List ProbedChip
  nuvotonWithheldBases : List UInt16
  deriving DecidableEq

/-! ## The probe -/

/-- What dropping a `SioExitGuard` does. -/
def exitOf (vendor : SuperIoVendor) (base : UInt16) : Probe Unit :=
  match vendor with
  | .ite => iteExit base
  | .nuvoton => nuvotonExit base
  | _ => pure ()

/-- The DEVID behind the ITE unlock; `none` goes on to the Nuvoton leg. -/
def iteRead (base : UInt16) : Probe (Option BaseOutcome) := do
  let devid ← sioDevid base
  match classifyDevid devid with
  | .bridge => pure (some (.chip (bridgeReport base devid)))
  | .iteChip => pure (some (.chip (iteReport base devid)))
  | .unknownResponder => pure (some .nothing)
  | .noResponse => pure none

def nuvotonRead (base : UInt16) : Probe BaseOutcome := do
  let devid ← sioDevid base
  pure (if isValidFamilyDevid devid then .chip ⟨base, .nuvoton, devid, none⟩ else .nothing)

def iteLeg (base : UInt16) : Probe (Option BaseOutcome) := do
  iteEnter base
  (iteRead base).always (exitOf .ite base)

def nuvotonLeg (base : UInt16) : Probe BaseOutcome := do
  nuvotonEnter base
  (nuvotonRead base).always (exitOf .nuvoton base)

def probeBase (base : UInt16) (policy : NuvotonUnlockPolicy) : Probe BaseOutcome := do
  let unlockedDevid ← sioDevid base
  match classifyDevid unlockedDevid with
  | .bridge => pure (.chip (bridgeReport base unlockedDevid))
  | .iteChip => pure (.chip (iteReport base unlockedDevid))
  | .unknownResponder => pure .nothing
  | .noResponse => do
    match ← iteLeg base with
    | some outcome => pure outcome
    | none => if policy.withheld.isSome then pure .nuvotonUnlockWithheld else nuvotonLeg base

def PortProbeOutcome.add (out : PortProbeOutcome) (base : UInt16) : Except Unit BaseOutcome → PortProbeOutcome
  | .ok (.chip chip) => { out with chips := out.chips ++ [chip] }
  | .ok .nuvotonUnlockWithheld => { out with nuvotonWithheldBases := out.nuvotonWithheldBases ++ [base] }
  | .ok .nothing => out
  | .error () => out

def probeEach (policy : NuvotonUnlockPolicy) : List UInt16 → PortProbeOutcome → Probe PortProbeOutcome
  | [], out => pure out
  | base :: rest, out => do
    let outcome ← (probeBase base policy).attempt
    probeEach policy rest (out.add base outcome)

def probePorts (bases : List UInt16) (policy : NuvotonUnlockPolicy) : Probe PortProbeOutcome :=
  probeEach policy bases ⟨[], []⟩

/-- What each base's probe does, in order. -/
def visits (policy : NuvotonUnlockPolicy) : List UInt16 → Ports → List (UInt16 × List Event)
  | [], _ => []
  | base :: rest, s =>
    let s' := (probeBase base policy s).2
    (base, s'.said.drop s.said.length) :: visits policy rest s'

/-! ## What is allowed, and what has to follow -/

def enterBytes (base : UInt16) : SuperIoVendor → List UInt8
  | .ite => [0x87, 0x01, 0x55, if base = 0x4e then 0xaa else 0x55]
  | .nuvoton => [0x87, 0x87]
  | _ => []

def exitSeq (base : UInt16) : SuperIoVendor → List (UInt16 × UInt8)
  | .ite => [(base, 0x02), (base + 1, 0x02)]
  | .nuvoton => [(base, 0xaa), (base, 0x02), (base + 1, 0x02)]
  | _ => []

def devidRead (base : UInt16) (hi lo : UInt8) : List Event :=
  [wrote base 0x20 .select .ok, saw (base + 1) (some hi), wrote base 0x21 .select .ok, saw (base + 1) (some lo)]

/-- A DEVID read that completed, and that nothing answered. -/
def Unanswered (base : UInt16) (t : List Event) : Prop :=
  ∃ hi lo, noResponse (devidOf hi lo) ∧ t = devidRead base hi lo

/-- What a port operation of a base's probe needs of the ones before it. -/
def Allowed (policy : NuvotonUnlockPolicy) (base : UInt16) (before : List Event) : Event → Prop
  | ⟨.read port, _⟩ => port = base + 1
  | ⟨.write port value .select, _⟩ => port = base ∧ (value = 0x20 ∨ value = 0x21)
  | ⟨.write port value (.enter vendor), _⟩ =>
    port = base ∧ value ∈ enterBytes base vendor ∧ (∃ d, d <+: before ∧ Unanswered base d) ∧
      (vendor = .nuvoton → policy.permitsUnlock ∧ ∃ d e d', d ++ e ++ d' <+: before ∧ Unanswered base d ∧ Unanswered base d')
  | ⟨.write port value (.exit vendor), _⟩ =>
    (port, value) ∈ exitSeq base vendor ∧
      (port = base + 1 → value = 0x02 ∧ [wrote base 0x02 (.exit vendor) .ok] <:+ before)

/-- The writes of a sequence, until one fails. -/
inductive Sent (part : Part) : List (UInt16 × UInt8) → Except Unit Unit → List Event → Prop
  | done : Sent part [] (.ok ()) []
  | failed (port : UInt16) (value : UInt8) (seq : List (UInt16 × UInt8)) (landed : Bool) :
    Sent part ((port, value) :: seq) (.error ()) [wrote port value part (.failed landed)]
  | next (port : UInt16) (value : UInt8) {seq : List (UInt16 × UInt8)} {r : Except Unit Unit} {t : List Event}
    (h : Sent part seq r t) : Sent part ((port, value) :: seq) r (wrote port value part .ok :: t)

def partOf : Event → Option Part
  | ⟨.read _, _⟩ => none
  | ⟨.write _ _ part, _⟩ => some part

/-- A write that reached the port. -/
def reached : Event → Bool
  | ⟨.read _, _⟩ => false
  | ⟨.write .., answer⟩ => answer ≠ Written.failed false

def writeFailed : Event → Bool
  | ⟨.read _, _⟩ => false
  | ⟨.write .., answer⟩ => answer ≠ Written.ok

/-- Once a byte of an enter sequence was sent, the exit sequence is attempted behind all of them. -/
def ClosesFor (vendor : SuperIoVendor) (base : UInt16) (t : List Event) : Prop :=
  (∃ ev ∈ t, partOf ev = some (.enter vendor) ∧ reached ev) → ∃ pre exit r post, t = pre ++ (exit ++ post) ∧
    Sent (.exit vendor) (exitSeq base vendor) r exit ∧ ∀ ev ∈ exit ++ post, partOf ev ≠ some (.enter vendor)

def Closes (base : UInt16) (t : List Event) : Prop := ∀ vendor, ClosesFor vendor base t

/-- Where a write of an enter sequence fails, no byte of the sequence has been sent. -/
def CleanFor (vendor : SuperIoVendor) (t : List Event) : Prop :=
  (∃ ev ∈ t, partOf ev = some (.enter vendor) ∧ writeFailed ev) →
    ∀ ev ∈ t, partOf ev = some (.enter vendor) → reached ev = false

def EntersCleanly (t : List Event) : Prop := ∀ vendor, CleanFor vendor t

/-! ## Sequences of writes -/

variable {part : Part} {seq : List (UInt16 × UInt8)} {r : Except Unit Unit} {t a e q x c : List Event} {ev : Event}
  {vendor : SuperIoVendor} {base : UInt16} {policy : NuvotonUnlockPolicy}

theorem says_writePort (part : Part) (port : UInt16) (value : UInt8) :
    Asking.Says (writePort part port value) (Sent part [(port, value)]) := by
  refine (Asking.Says.bind (Asking.Says.ask (R := fun r t => ∃ w, r = .ok w ∧ t = [wrote port value part w])
    fun w => ⟨w, rfl, rfl⟩) (T := fun w r t => t = [] ∧ r = if w = .ok then .ok () else .error ()) fun w => ?_).mono ?_
  · cases w with
    | ok => exact Asking.Says.pure ⟨rfl, rfl⟩
    | failed landed => exact Asking.Says.leave ⟨rfl, rfl⟩
  · rintro r t (⟨_, -, _, h, -⟩ | ⟨w, t₁, t₂, rfl, ⟨_, h, rfl⟩, rfl, rfl⟩)
    · cases h
    · cases h
      cases w with
      | ok => exact .next port value .done
      | failed landed => exact .failed port value [] landed

theorem says_writes {m : Probe Unit} (part : Part) (port : UInt16) (value : UInt8) (h : Asking.Says m (Sent part seq)) :
    Asking.Says (writePort part port value >>= fun _ => m) (Sent part ((port, value) :: seq)) := by
  refine ((says_writePort part port value).bind fun _ => h).mono ?_
  rintro r t (⟨_, rfl, hs⟩ | ⟨_, t₁, t₂, rfl, hs, ht⟩)
  · cases hs with
    | failed _ _ _ landed => exact .failed port value seq landed
    | next _ _ h => cases h
  · cases hs with
    | next _ _ h =>
      cases h
      exact .next port value ht

theorem says_iteEnter (base : UInt16) :
    Asking.Says (iteEnter base) (Sent (.enter .ite) ((enterBytes base .ite).map (base, ·))) :=
  says_writes _ _ _ (says_writes _ _ _ (says_writes _ _ _ (says_writePort _ _ _)))

theorem says_nuvotonEnter (base : UInt16) :
    Asking.Says (nuvotonEnter base) (Sent (.enter .nuvoton) ((enterBytes base .nuvoton).map (base, ·))) :=
  says_writes _ _ _ (says_writePort _ _ _)

theorem says_exitOf (vendor : SuperIoVendor) (base : UInt16) :
    Asking.Says (exitOf vendor base) (Sent (.exit vendor) (exitSeq base vendor)) := by
  cases vendor with
  | ite => exact says_writes _ _ _ (says_writePort _ _ _)
  | nuvoton => exact says_writes _ _ _ (says_writes _ _ _ (says_writePort _ _ _))
  | _ => exact Asking.Says.pure .done

theorem Sent.mem (h : Sent part seq r t) (hev : ev ∈ t) : ∃ pv ∈ seq, ∃ w, ev = wrote pv.1 pv.2 part w := by
  induction h with
  | done => cases hev
  | failed port value seq landed =>
    exact ⟨(port, value), List.mem_cons_self, _, List.mem_singleton.mp hev⟩
  | next port value _ ih =>
    rcases List.mem_cons.mp hev with rfl | hev
    · exact ⟨(port, value), List.mem_cons_self, _, rfl⟩
    · obtain ⟨pv, hpv, hw⟩ := ih hev
      exact ⟨pv, List.mem_cons_of_mem _ hpv, hw⟩

theorem Sent.partOf (h : Sent part seq r t) (hev : ev ∈ t) : partOf ev = some part := by
  obtain ⟨_, -, _, rfl⟩ := h.mem hev
  rfl

theorem Sent.writeFailed_eq_false (h : Sent part seq (.ok ()) t) (hev : ev ∈ t) : writeFailed ev = false := by
  generalize hr : (Except.ok () : Except Unit Unit) = r at h
  induction h with
  | done => cases hev
  | failed => cases hr
  | next _ _ _ ih =>
    rcases List.mem_cons.mp hev with rfl | hev
    · rfl
    · exact ih hev hr

theorem Sent.exists_failed (h : Sent part seq (.error ()) t) : ∃ ev ∈ t, writeFailed ev = true := by
  generalize hr : (Except.error () : Except Unit Unit) = r at h
  induction h with
  | done => cases hr
  | failed => exact ⟨_, List.mem_cons_self, rfl⟩
  | next _ _ _ ih =>
    obtain ⟨ev, hev, hf⟩ := ih hr
    exact ⟨ev, List.mem_cons_of_mem _ hev, hf⟩

/-! ## Reads -/

/-- What a DEVID read may do. -/
def Quiet (base : UInt16) (ev : Event) : Prop :=
  ev.1 = .read (base + 1) ∨ ev.1 = .write base 0x20 .select ∨ ev.1 = .write base 0x21 .select

theorem Quiet.partOf {v : SuperIoVendor} (h : Quiet base ev) :
    partOf ev ≠ some (.enter v) ∧ partOf ev ≠ some (.exit v) := by
  obtain ⟨op, answer⟩ := ev
  rcases h with h | h | h <;> dsimp only at h <;> subst h <;> exact ⟨nofun, nofun⟩

theorem says_sioInb (base : UInt16) (reg : UInt8) : Asking.Says (sioInb base reg) fun r t =>
    (∀ ev ∈ t, ev.1 = .read (base + 1) ∨ ev.1 = .write base reg .select) ∧
      ∀ value, r = .ok value → t = [wrote base reg .select .ok, saw (base + 1) (some value)] := by
  refine ((says_writePort .select base reg).bind fun _ => (Asking.Says.ask (q := PortOp.read (base + 1))
    (R := fun r t => ∃ b, r = .ok b ∧ t = [saw (base + 1) b]) fun b => ⟨b, rfl, rfl⟩).bind
      (T := fun b r t => t = [] ∧ ∀ value, r = .ok value → b = some value) fun b => ?_).mono ?_
  · cases b with
    | none => exact Asking.Says.leave ⟨rfl, nofun⟩
    | some value => exact Asking.Says.pure ⟨rfl, fun v hv => by cases hv; rfl⟩
  · rintro r t (⟨_, rfl, hs⟩ | ⟨_, t₁, t₂, rfl, hs, ht⟩)
    · refine ⟨fun ev hev => ?_, nofun⟩
      obtain ⟨pv, hpv, w, rfl⟩ := hs.mem hev
      obtain rfl := List.mem_singleton.mp hpv
      exact Or.inr rfl
    · cases hs with
      | next _ _ h =>
        cases h
        rcases ht with ⟨_, -, _, h, -⟩ | ⟨b, _, _, rfl, ⟨_, h, rfl⟩, rfl, hb⟩
        · cases h
        · cases h
          refine ⟨fun ev hev => ?_, fun value hr => by rw [hb value hr]; rfl⟩
          simp only [List.append_nil, List.mem_append, List.mem_singleton] at hev
          rcases hev with rfl | rfl
          · exact Or.inr rfl
          · exact Or.inl rfl

theorem says_sioDevid (base : UInt16) : Asking.Says (sioDevid base) fun r t =>
    (∀ ev ∈ t, Quiet base ev) ∧ ∀ devid, r = .ok devid → ∃ hi lo, devid = devidOf hi lo ∧ t = devidRead base hi lo := by
  refine ((says_sioInb base 0x20).bind fun hi => (says_sioInb base 0x21).bind fun lo =>
    Asking.Says.pure (R := fun r t => r = .ok (devidOf hi lo) ∧ t = []) ⟨rfl, rfl⟩).mono ?_
  rintro r t (⟨_, rfl, hs, -⟩ | ⟨hi, t₁, t₂, rfl, ⟨hs, hhi⟩, ⟨_, rfl, hs', -⟩ | ⟨lo, t₃, _, rfl, ⟨hs', hlo⟩, rfl, rfl⟩⟩)
  · exact ⟨fun ev hev => (hs ev hev).imp_right Or.inl, nofun⟩
  all_goals have hquiet : ∀ ev ∈ t₁, Quiet base ev := fun ev hev => (hs ev hev).imp_right Or.inl
  · refine ⟨fun ev hev => ?_, nofun⟩
    rcases List.mem_append.mp hev with hev | hev
    · exact hquiet ev hev
    · exact (hs' ev hev).imp_right Or.inr
  · refine ⟨fun ev hev => ?_, fun devid hr => ⟨hi, lo, (Except.ok.inj hr).symm, ?_⟩⟩
    · rw [List.append_nil] at hev
      rcases List.mem_append.mp hev with hev | hev
      · exact hquiet ev hev
      · exact (hs' ev hev).imp_right Or.inr
    · rw [hhi hi rfl, hlo lo rfl]
      rfl

theorem unanswered_of_classify {hi lo : UInt8} (h : classifyDevid (devidOf hi lo) = .noResponse) :
    Unanswered base (devidRead base hi lo) := by
  refine ⟨hi, lo, ?_, rfl⟩
  unfold classifyDevid at h
  split_ifs at h with _ _ hno
  exact hno

theorem Unanswered.quiet (h : Unanswered base t) : ∀ ev ∈ t, Quiet base ev := by
  obtain ⟨hi, lo, -, rfl⟩ := h
  simp [devidRead, Quiet]

theorem says_iteRead (base : UInt16) : Asking.Says (iteRead base) fun r t =>
    (∀ ev ∈ t, Quiet base ev) ∧ (r = .ok none → Unanswered base t) := by
  refine ((says_sioDevid base).bind (T := fun devid r t =>
    t = [] ∧ (r = .ok none → classifyDevid devid = .noResponse)) fun devid => ?_).mono ?_
  · cases hd : classifyDevid devid <;> exact Asking.Says.pure ⟨rfl, fun h => by cases h <;> rfl⟩
  · rintro r t (⟨_, rfl, hs, -⟩ | ⟨devid, t₁, _, rfl, ⟨hs, hd⟩, rfl, hnone⟩)
    · exact ⟨hs, nofun⟩
    · rw [List.append_nil]
      refine ⟨hs, fun hr => ?_⟩
      obtain ⟨hi, lo, rfl, rfl⟩ := hd devid rfl
      exact unanswered_of_classify (hnone hr)

theorem says_nuvotonRead (base : UInt16) : Asking.Says (nuvotonRead base) fun _ t => ∀ ev ∈ t, Quiet base ev := by
  refine ((says_sioDevid base).bind (T := fun _ _ t => t = []) fun devid => Asking.Says.pure rfl).mono ?_
  rintro r t (⟨_, rfl, hs, -⟩ | ⟨devid, t₁, _, rfl, ⟨hs, -⟩, rfl⟩)
  · exact hs
  · rwa [List.append_nil]

/-! ## One base -/

/-- An enter sequence, a read and the exit, or an enter sequence cut short. -/
inductive Leg (vendor : SuperIoVendor) (base : UInt16) (R : List Event → Prop) : List Event → Prop
  | cut {t : List Event} (h : Sent (.enter vendor) ((enterBytes base vendor).map (base, ·)) (.error ()) t) : Leg vendor base R t
  | full {e q x : List Event} {r : Except Unit Unit}
    (he : Sent (.enter vendor) ((enterBytes base vendor).map (base, ·)) (.ok ()) e) (hq : R q)
    (hx : Sent (.exit vendor) (exitSeq base vendor) r x) : Leg vendor base R (e ++ (q ++ x))

inductive Visit (policy : NuvotonUnlockPolicy) (base : UInt16) : List Event → Prop
  | quiet {t : List Event} (h : ∀ ev ∈ t, Quiet base ev) : Visit policy base t
  | ite {d l : List Event} (hd : Unanswered base d) (hl : Leg .ite base (fun q => ∀ ev ∈ q, Quiet base ev) l) :
    Visit policy base (d ++ l)
  | nuvoton {d e q x n : List Event} {r : Except Unit Unit} (hd : Unanswered base d)
    (he : Sent (.enter .ite) ((enterBytes base .ite).map (base, ·)) (.ok ()) e) (hq : Unanswered base q)
    (hx : Sent (.exit .ite) (exitSeq base .ite) r x) (hpolicy : policy.permitsUnlock)
    (hn : Leg .nuvoton base (fun q => ∀ ev ∈ q, Quiet base ev) n) :
    Visit policy base (d ++ (e ++ (q ++ x) ++ n))

theorem says_leg {α : Type} {enter : Probe Unit} {read : Probe α} {R : Except Unit α → List Event → Prop}
    (henter : Asking.Says enter (Sent (.enter vendor) ((enterBytes base vendor).map (base, ·)))) (hread : Asking.Says read R) :
    Asking.Says (enter >>= fun _ => read.always (exitOf vendor base)) fun r t =>
      r = .error () ∧ Sent (.enter vendor) ((enterBytes base vendor).map (base, ·)) (.error ()) t ∨
        ∃ e q x rx, t = e ++ (q ++ x) ∧ Sent (.enter vendor) ((enterBytes base vendor).map (base, ·)) (.ok ()) e ∧ R r q ∧
          Sent (.exit vendor) (exitSeq base vendor) rx x := by
  refine (henter.bind fun _ => hread.always (says_exitOf vendor base)).mono ?_
  rintro r t (⟨_, rfl, hs⟩ | ⟨_, e, _, rfl, he, rx, q, x, rfl, hq, hx⟩)
  · exact Or.inl ⟨rfl, hs⟩
  · exact Or.inr ⟨e, q, x, rx, rfl, he, hq, hx⟩

theorem says_nuvotonLeg (base : UInt16) : Asking.Says (nuvotonLeg base) fun _ t =>
    Leg .nuvoton base (fun q => ∀ ev ∈ q, Quiet base ev) t := by
  refine (says_leg (says_nuvotonEnter base) (says_nuvotonRead base)).mono ?_
  rintro r t (⟨-, hs⟩ | ⟨e, q, x, rx, rfl, he, hq, hx⟩)
  · exact .cut hs
  · exact .full he hq hx

theorem says_probeBase (base : UInt16) (policy : NuvotonUnlockPolicy) :
    Asking.Says (probeBase base policy) fun _ t => Visit policy base t := by
  refine ((says_sioDevid base).bind (T := fun devid _ t => t = [] ∨ classifyDevid devid = .noResponse ∧
    ∀ d, Unanswered base d → Visit policy base (d ++ t)) fun devid => ?_).mono ?_
  · cases hd : classifyDevid devid with
    | bridge => exact Asking.Says.pure (Or.inl rfl)
    | iteChip => exact Asking.Says.pure (Or.inl rfl)
    | unknownResponder => exact Asking.Says.pure (Or.inl rfl)
    | noResponse =>
      refine ((says_leg (says_iteEnter base) (says_iteRead base)).bind (T := fun early _ t =>
        t = [] ∨ early = none ∧ policy.permitsUnlock ∧ Leg .nuvoton base (fun q => ∀ ev ∈ q, Quiet base ev) t)
          fun early => ?_).mono ?_
      · cases early with
        | some outcome => exact Asking.Says.pure (Or.inl rfl)
        | none =>
          dsimp only
          split_ifs with hw
          · exact Asking.Says.pure (Or.inl rfl)
          · refine (says_nuvotonLeg base).mono fun r t ht => Or.inr ⟨rfl, ?_, ht⟩
            unfold NuvotonUnlockPolicy.permitsUnlock
            cases hp : policy.withheld with
            | none => rfl
            | some _ => exact absurd (by rw [hp]; rfl) hw
      · rintro r t (⟨_, -, h⟩ | ⟨early, t₁, t₂, rfl, h, ht⟩) <;> refine Or.inr ⟨rfl, fun d hd => ?_⟩
        · rcases h with ⟨-, hs⟩ | ⟨e, q, x, rx, rfl, he, ⟨hq, -⟩, hx⟩
          · exact .ite hd (.cut hs)
          · exact .ite hd (.full he hq hx)
        · rcases h with ⟨h, -⟩ | ⟨e, q, x, rx, rfl, he, ⟨hq, hnone⟩, hx⟩
          · cases h
          · rcases ht with rfl | ⟨rfl, hp, hn⟩
            · rw [List.append_nil]
              exact .ite hd (.full he hq hx)
            · exact .nuvoton hd he (hnone rfl) hx hp hn
  · rintro r t (⟨_, -, hs, -⟩ | ⟨devid, t₁, t₂, rfl, ⟨hs, hd⟩, rfl | ⟨hno, ht⟩⟩)
    · exact .quiet hs
    · rw [List.append_nil]
      exact .quiet hs
    · obtain ⟨hi, lo, rfl, rfl⟩ := hd devid rfl
      exact ht _ (unanswered_of_classify hno)

/-! ## Every operation is allowed -/

theorem data_ne_index (base : UInt16) : base ≠ base + 1 := by
  intro h
  have hn := congrArg UInt16.toNat h
  rw [UInt16.toNat_add] at hn
  have hlt := base.toNat_lt
  have hone : (1 : UInt16).toNat = 1 := rfl
  omega

theorem legalFrom_quiet (h : ∀ ev ∈ t, Quiet base ev) (before : List Event) :
    History.LegalFrom (Allowed policy base) before t := by
  refine History.legalFrom_of_forall fun ev hev before => ?_
  obtain ⟨op, answer⟩ := ev
  rcases h _ hev with h | h | h <;> dsimp only at h <;> subst h
  · exact rfl
  · exact ⟨rfl, Or.inl rfl⟩
  · exact ⟨rfl, Or.inr rfl⟩

theorem legalFrom_enter {before : List Event} (h : Sent (.enter vendor) seq r t)
    (hseq : ∀ pv ∈ seq, pv.1 = base ∧ pv.2 ∈ enterBytes base vendor) (hread : ∃ d, d <+: before ∧ Unanswered base d)
    (hnuvoton : vendor = .nuvoton →
      policy.permitsUnlock ∧ ∃ d e d', d ++ e ++ d' <+: before ∧ Unanswered base d ∧ Unanswered base d') :
    History.LegalFrom (Allowed policy base) before t := by
  induction h generalizing before with
  | done => trivial
  | failed port value seq landed =>
    obtain ⟨hp, hv⟩ := hseq _ List.mem_cons_self
    exact ⟨⟨hp, hv, hread, hnuvoton⟩, trivial⟩
  | next port value _ ih =>
    obtain ⟨hp, hv⟩ := hseq _ List.mem_cons_self
    refine ⟨⟨hp, hv, hread, hnuvoton⟩, ih (fun pv hpv => hseq pv (List.mem_cons_of_mem _ hpv)) ?_ fun hn => ?_⟩
    · obtain ⟨d, hd, hu⟩ := hread
      exact ⟨d, hd.trans (List.prefix_append _ _), hu⟩
    · obtain ⟨hpolicy, d, e, d', hd, hu⟩ := hnuvoton hn
      exact ⟨hpolicy, d, e, d', hd.trans (List.prefix_append _ _), hu⟩

/-- The data byte follows its index. -/
theorem legalFrom_select {before : List Event} (hseq : ∀ pv ∈ [(base, (0x02 : UInt8)), (base + 1, 0x02)], pv ∈ exitSeq base vendor)
    (h : Sent (.exit vendor) [(base, 0x02), (base + 1, 0x02)] r t) : History.LegalFrom (Allowed policy base) before t := by
  have hindex : Allowed policy base before (wrote base 0x02 (.exit vendor) .ok) :=
    ⟨hseq _ (by simp), fun h => absurd h (data_ne_index base)⟩
  have hdata (w : Written) : Allowed policy base (before ++ [wrote base 0x02 (.exit vendor) .ok])
      (wrote (base + 1) 0x02 (.exit vendor) w) := ⟨hseq _ (by simp), fun _ => ⟨rfl, List.suffix_append _ _⟩⟩
  cases h with
  | failed => exact ⟨⟨hseq _ (by simp), fun h => absurd h (data_ne_index base)⟩, trivial⟩
  | next _ _ h =>
    cases h with
    | failed => exact ⟨hindex, hdata _, trivial⟩
    | next _ _ h =>
      cases h
      exact ⟨hindex, hdata _, trivial⟩

theorem legalFrom_exit {before : List Event} (h : Sent (.exit vendor) (exitSeq base vendor) r t) :
    History.LegalFrom (Allowed policy base) before t := by
  cases vendor with
  | ite =>
    have hseq : ∀ pv ∈ [(base, (0x02 : UInt8)), (base + 1, 0x02)], pv ∈ exitSeq base .ite := fun pv hpv => hpv
    exact legalFrom_select hseq h
  | nuvoton =>
    have hexit (w : Written) (before : List Event) : Allowed policy base before (wrote base 0xaa (.exit .nuvoton) w) :=
      ⟨List.mem_cons_self, fun h => absurd h (data_ne_index base)⟩
    cases h with
    | failed => exact ⟨hexit _ _, trivial⟩
    | next _ _ h =>
      have hseq : ∀ pv ∈ [(base, (0x02 : UInt8)), (base + 1, 0x02)], pv ∈ exitSeq base .nuvoton := fun pv hpv =>
        List.mem_cons_of_mem _ hpv
      exact ⟨hexit _ _, legalFrom_select hseq h⟩
  | _ =>
    cases h
    trivial

theorem mem_enterSeq {pv : UInt16 × UInt8} (h : pv ∈ (enterBytes base vendor).map (base, ·)) :
    pv.1 = base ∧ pv.2 ∈ enterBytes base vendor := by
  obtain ⟨value, hvalue, rfl⟩ := List.mem_map.mp h
  exact ⟨rfl, hvalue⟩

theorem Leg.legalFrom {before : List Event} (h : Leg vendor base (fun q => ∀ ev ∈ q, Quiet base ev) t)
    (hread : ∃ d, d <+: before ∧ Unanswered base d)
    (hnuvoton : vendor = .nuvoton →
      policy.permitsUnlock ∧ ∃ d e d', d ++ e ++ d' <+: before ∧ Unanswered base d ∧ Unanswered base d') :
    History.LegalFrom (Allowed policy base) before t := by
  cases h with
  | cut h => exact legalFrom_enter h (fun _ => mem_enterSeq) hread hnuvoton
  | full he hq hx =>
    rw [History.legalFrom_append, History.legalFrom_append]
    exact ⟨legalFrom_enter he (fun _ => mem_enterSeq) hread hnuvoton, legalFrom_quiet hq _, legalFrom_exit hx⟩

theorem Visit.legal (h : Visit policy base t) : History.Legal (Allowed policy base) t := by
  refine History.LegalFrom.legal ?_
  cases h with
  | quiet h => exact legalFrom_quiet h _
  | @ite d l hd hl =>
    rw [History.legalFrom_append]
    exact ⟨legalFrom_quiet hd.quiet _, hl.legalFrom ⟨d, List.prefix_refl _, hd⟩ nofun⟩
  | @nuvoton d e q x n r hd he hq hx hpolicy hn =>
    rw [History.legalFrom_append, History.legalFrom_append, List.nil_append]
    have hite : Leg .ite base (fun q => ∀ ev ∈ q, Quiet base ev) (e ++ (q ++ x)) := .full he hq.quiet hx
    refine ⟨legalFrom_quiet hd.quiet _, hite.legalFrom ⟨d, List.prefix_refl _, hd⟩ nofun, hn.legalFrom ?_ fun _ => ?_⟩
    · exact ⟨d, List.prefix_append _ _, hd⟩
    · refine ⟨hpolicy, d, e, q, ⟨x, ?_⟩, hd, hq⟩
      simp only [List.append_assoc]

/-! ## Every enter sequence that went through is closed -/

theorem closesFor_of_none (h : ∀ ev ∈ t, partOf ev ≠ some (.enter vendor)) : ClosesFor vendor base t ∧ CleanFor vendor t :=
  ⟨fun ⟨ev, hev, hp, _⟩ => absurd hp (h ev hev), fun _ ev hev hp => absurd hp (h ev hev)⟩

theorem exitSeq_ne_nil (base : UInt16) (h : enterBytes base vendor ≠ []) : exitSeq base vendor ≠ [] := by
  cases vendor <;> first | exact List.cons_ne_nil _ _ | exact absurd rfl h

/-- A leg that came to its guard. -/
theorem closesFor_of_full (hbefore : ∀ ev ∈ a, partOf ev ≠ some (.enter vendor))
    (he : Sent (.enter vendor) seq (.ok ()) e) (hq : ∀ ev ∈ q, Quiet base ev)
    (hx : Sent (.exit vendor) (exitSeq base vendor) r x) (hafter : ∀ ev ∈ c, partOf ev ≠ some (.enter vendor)) :
    ClosesFor vendor base (a ++ (e ++ (q ++ x) ++ c)) ∧ CleanFor vendor (a ++ (e ++ (q ++ x) ++ c)) := by
  have hexit : ∀ ev ∈ x, partOf ev ≠ some (.enter vendor) := fun ev hev => by
    rw [hx.partOf hev]
    nofun
  refine ⟨fun _ => ⟨a ++ (e ++ q), x, r, c, by simp only [List.append_assoc], hx, fun ev hev => ?_⟩, fun hfailed => ?_⟩
  · exact (List.mem_append.mp hev).elim (hexit ev) (hafter ev)
  · exfalso
    obtain ⟨ev, hev, hp, hf⟩ := hfailed
    simp only [List.mem_append] at hev
    rcases hev with hev | ⟨hev | hev | hev⟩ | hev
    · exact hbefore ev hev hp
    · rw [he.writeFailed_eq_false hev] at hf
      cases hf
    · exact (hq ev hev).partOf.1 hp
    · exact hexit ev hev hp
    · exact hafter ev hev hp

/-- A leg cut short has no exit. -/
theorem closesFor_iff_of_cut (hbefore : ∀ ev ∈ a, partOf ev ≠ some (.enter vendor) ∧ partOf ev ≠ some (.exit vendor))
    (hl : Sent (.enter vendor) ((enterBytes base vendor).map (base, ·)) (.error ()) t) :
    ClosesFor vendor base (a ++ t) ↔ CleanFor vendor (a ++ t) := by
  have hbytes : enterBytes base vendor ≠ [] := by
    intro hnil
    rw [hnil] at hl
    cases hl
  refine ⟨fun hcloses _ ev hev hp => ?_, fun hclean hsent => ?_⟩
  · by_contra hreached
    obtain ⟨pre, exit, r, post, heq, hexit, -⟩ := hcloses ⟨ev, hev, hp, Bool.of_not_eq_false hreached⟩
    obtain ⟨ev', hev'⟩ : ∃ ev', ev' ∈ exit := by
      refine List.exists_mem_of_ne_nil _ fun hnil => exitSeq_ne_nil base hbytes ?_
      rw [hnil] at hexit
      generalize exitSeq base vendor = seq at hexit
      cases hexit
      rfl
    have hmem : ev' ∈ a ++ t := by
      rw [heq]
      exact List.mem_append_right _ (List.mem_append_left _ hev')
    rcases List.mem_append.mp hmem with hm | hm
    · exact (hbefore ev' hm).2 (hexit.partOf hev')
    · exact absurd ((hl.partOf hm).symm.trans (hexit.partOf hev')) nofun
  · obtain ⟨ev, hev, hp, hreached⟩ := hsent
    obtain ⟨ev', hev', hf⟩ := hl.exists_failed
    rw [hclean ⟨ev', List.mem_append_right _ hev', hl.partOf hev', hf⟩ ev hev hp] at hreached
    cases hreached

theorem Leg.closesFor_iff (hbefore : ∀ ev ∈ a, partOf ev ≠ some (.enter vendor) ∧ partOf ev ≠ some (.exit vendor))
    (h : Leg vendor base (fun q => ∀ ev ∈ q, Quiet base ev) t) : ClosesFor vendor base (a ++ t) ↔ CleanFor vendor (a ++ t) := by
  cases h with
  | cut h => exact closesFor_iff_of_cut hbefore h
  | full he hq hx =>
    have hfull := closesFor_of_full (fun ev hev => (hbefore ev hev).1) he hq hx (c := []) nofun
    rw [List.append_nil] at hfull
    exact iff_of_true hfull.1 hfull.2

/-- A leg writes nothing for another vendor. -/
theorem Leg.otherPart {v : SuperIoVendor} (h : Leg vendor base (fun q => ∀ ev ∈ q, Quiet base ev) t) (hne : v ≠ vendor)
    (hev : ev ∈ t) : partOf ev ≠ some (.enter v) ∧ partOf ev ≠ some (.exit v) := by
  have henter {p : Part} (hp : partOf ev = some p) (h₁ : p ≠ .enter v) (h₂ : p ≠ .exit v) :
      partOf ev ≠ some (.enter v) ∧ partOf ev ≠ some (.exit v) := by
    rw [hp]
    exact ⟨fun h => h₁ (Option.some.inj h), fun h => h₂ (Option.some.inj h)⟩
  cases h with
  | cut h => exact henter (h.partOf hev) (fun h => hne (Part.enter.inj h).symm) nofun
  | full he hq hx =>
    simp only [List.mem_append] at hev
    rcases hev with hev | hev | hev
    · exact henter (he.partOf hev) (fun h => hne (Part.enter.inj h).symm) nofun
    · exact (hq ev hev).partOf
    · exact henter (hx.partOf hev) nofun fun h => hne (Part.exit.inj h).symm

theorem Visit.closesFor_iff (h : Visit policy base t) (vendor : SuperIoVendor) :
    ClosesFor vendor base t ↔ CleanFor vendor t := by
  cases h with
  | quiet h =>
    have hclosed : ClosesFor vendor base _ ∧ CleanFor vendor _ :=
      closesFor_of_none fun ev hev => (h ev hev).partOf (v := vendor) |>.1
    exact iff_of_true hclosed.1 hclosed.2
  | @ite d l hd hl =>
    by_cases hv : vendor = .ite
    · subst hv
      exact hl.closesFor_iff fun ev hev => (hd.quiet ev hev).partOf
    · have hnone : ∀ ev ∈ d ++ l, partOf ev ≠ some (.enter vendor) := fun ev hev =>
        (List.mem_append.mp hev).elim (fun h => (hd.quiet ev h).partOf.1) fun h => (hl.otherPart hv h).1
      have hclosed : ClosesFor vendor base (d ++ l) ∧ CleanFor vendor (d ++ l) := closesFor_of_none hnone
      exact iff_of_true hclosed.1 hclosed.2
  | @nuvoton d e q x n r hd he hq hx hpolicy hn =>
    have hite : Leg .ite base (fun q => ∀ ev ∈ q, Quiet base ev) (e ++ (q ++ x)) := .full he hq.quiet hx
    by_cases hv : vendor = .ite
    · subst hv
      have hfull := closesFor_of_full (fun ev hev => (hd.quiet ev hev).partOf.1) he hq.quiet hx
        fun ev hev => (hn.otherPart (v := .ite) nofun hev).1
      exact iff_of_true hfull.1 hfull.2
    · rw [← List.append_assoc]
      have hbefore : ∀ ev ∈ d ++ (e ++ (q ++ x)), partOf ev ≠ some (.enter vendor) ∧ partOf ev ≠ some (.exit vendor) :=
        fun ev hev => (List.mem_append.mp hev).elim (fun h => (hd.quiet ev h).partOf) (hite.otherPart hv)
      by_cases hv' : vendor = .nuvoton
      · subst hv'
        exact hn.closesFor_iff hbefore
      · have hnone : ∀ ev ∈ d ++ (e ++ (q ++ x)) ++ n, partOf ev ≠ some (.enter vendor) := fun ev hev =>
          (List.mem_append.mp hev).elim (fun h => (hbefore ev h).1) fun h => (hn.otherPart hv' h).1
        have hclosed : ClosesFor vendor base (d ++ (e ++ (q ++ x)) ++ n) ∧ CleanFor vendor (d ++ (e ++ (q ++ x)) ++ n) :=
          closesFor_of_none hnone
        exact iff_of_true hclosed.1 hclosed.2

/-! ## Every base -/

theorem visits_spec (policy : NuvotonUnlockPolicy) (bases : List UInt16) (out : PortProbeOutcome) (s : Ports) :
    (probeEach policy bases out s).2.said = s.said ++ (visits policy bases s).flatMap (·.2) ∧
      (visits policy bases s).map (·.1) = bases ∧ ∀ v ∈ visits policy bases s, Visit policy v.1 v.2 := by
  induction bases generalizing out s with
  | nil => exact ⟨(List.append_nil _).symm, rfl, nofun⟩
  | cons base rest ih =>
    obtain ⟨t, ht, hvisit⟩ := says_probeBase base policy s
    have hdrop : (probeBase base policy s).2.said.drop s.said.length = t := by
      rw [ht]
      exact List.drop_left
    obtain ⟨hsaid, hbases, hvisits⟩ := ih (out.add base (probeBase base policy s).1) (probeBase base policy s).2
    unfold visits
    dsimp only
    rw [hdrop]
    refine ⟨?_, congrArg (base :: ·) hbases, fun v hv => ?_⟩
    · show (probeEach policy rest _ (probeBase base policy s).2).2.said = _
      rw [hsaid, ht, List.flatMap_cons, List.append_assoc]
    · rcases List.mem_cons.mp hv with rfl | hv
      · exact hvisit
      · exact hvisits v hv

/-- The probe does only what is allowed, and leaves no chip unlocked unless an enter write fails behind a byte that was
sent. -/
theorem probe_ports_careful (bases : List UInt16) (policy : NuvotonUnlockPolicy) (s : Ports) :
    (probePorts bases policy s).2.said = s.said ++ (visits policy bases s).flatMap (·.2) ∧
    (visits policy bases s).map (·.1) = bases ∧
    (∀ v ∈ visits policy bases s, History.Legal (Allowed policy v.1) v.2) ∧
    ((∀ v ∈ visits policy bases s, Closes v.1 v.2) ↔ ∀ v ∈ visits policy bases s, EntersCleanly v.2) := by
  obtain ⟨hsaid, hbases, hvisits⟩ := visits_spec policy bases ⟨[], []⟩ s
  refine ⟨hsaid, hbases, fun v hv => (hvisits v hv).legal, forall₂_congr fun v hv => forall_congr' fun vendor => ?_⟩
  exact (hvisits v hv).closesFor_iff vendor

/-- Nothing answers, and the last enter byte lands but is reported failed. -/
def lastByteLands : Ports where
  env said op := match op with
    | .read _ => some 0xff
    | .write .. => if said.length = 7 then .failed true else .ok
  said := []
  mem := ()

/-- The ITE unlock is complete at 0x2e, and nothing more is written there. -/
theorem unlock_left_behind : visits ⟨none⟩ [0x2e] lastByteLands = [(0x2e, devidRead 0x2e 0xff 0xff ++
      [wrote 0x2e 0x87 (.enter .ite) .ok, wrote 0x2e 0x01 (.enter .ite) .ok, wrote 0x2e 0x55 (.enter .ite) .ok,
        wrote 0x2e 0x55 (.enter .ite) (.failed true)])] ∧
    ¬∀ v ∈ visits ⟨none⟩ [0x2e] lastByteLands, Closes v.1 v.2 := by
  have hvisits : visits ⟨none⟩ [0x2e] lastByteLands = [(0x2e, devidRead 0x2e 0xff 0xff ++
      [wrote 0x2e 0x87 (.enter .ite) .ok, wrote 0x2e 0x01 (.enter .ite) .ok, wrote 0x2e 0x55 (.enter .ite) .ok,
        wrote 0x2e 0x55 (.enter .ite) (.failed true)])] := rfl
  refine ⟨hvisits, fun hcloses => ?_⟩
  have hvisit := (visits_spec ⟨none⟩ [0x2e] ⟨[], []⟩ lastByteLands).2.2
  rw [hvisits] at hcloses hvisit
  have hclean := (hvisit _ List.mem_cons_self).closesFor_iff .ite |>.mp (hcloses _ List.mem_cons_self .ite)
  have hreached := hclean ⟨wrote 0x2e 0x55 (.enter .ite) (.failed true), by simp [devidRead], rfl, rfl⟩
    (wrote 0x2e 0x87 (.enter .ite) .ok) (by simp [devidRead]) rfl
  exact absurd hreached nofun

end ControlOfc.Hwmon.SuperIo
