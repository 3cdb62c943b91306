import LibModbus.Link.Neutral
import LibModbus.Model.SerialPort

/-! What a context makes of the settings of its serial port, and whether it gives them back. -/

namespace LibModbus

open Library Library.Prog

section Settings

variable {w : ℕ}

/-- Of the fields in the control flags no two overlap, and every size is a value of its field. -/
structure TermiosConstants.Lawful (c : TermiosConstants w) : Prop where
  disjoint : [c.cread ||| c.clocal, c.csize, c.cstopb, c.parenb, c.parodd].Pairwise (· &&& · = 0#w)
  size : ∀ cs ∈ [c.cs5, c.cs6, c.cs7, c.cs8], cs &&& c.csize = cs
  input : c.inpck &&& (c.ixon ||| c.ixoff ||| c.ixany) = 0#w
  nonzero : c.cstopb ≠ 0#w ∧ c.parenb ≠ 0#w ∧ c.parodd ≠ 0#w ∧ c.inpck ≠ 0#w

/-- The port is set to the format: raw, with the receiver on and without flow control. -/
structure Configured (c : TermiosConstants w) (format : SerialFormat) (t : Termios w) : Prop where
  speed : t.ispeed = speedConstant c format.baud ∧ t.ospeed = speedConstant c format.baud
  receiver : t.cflag &&& (c.cread ||| c.clocal) = c.cread ||| c.clocal
  size : t.cflag &&& c.csize = sizeConstant c format.dataBit
  stop : t.cflag &&& c.cstopb = 0#w ↔ format.stopBit = 1
  parity : t.cflag &&& c.parenb = 0#w ↔ format.parity = 78
  odd : format.parity ≠ 78 → (t.cflag &&& c.parodd = 0#w ↔ format.parity = 69)
  checked : t.iflag &&& c.inpck = 0#w ↔ format.parity = 78
  flow : t.iflag &&& (c.ixon ||| c.ixoff ||| c.ixany) = 0#w
  raw : t.lflag = 0#w ∧ t.oflag = 0#w

lemma and_clear (x m : BitVec w) (h : x &&& m = 0#w) : x &&& ~~~m = x := by
  have hsplit : x &&& m ||| x &&& ~~~m = x := by
    rw [← BitVec.and_or_distrib_left, BitVec.or_not_self, BitVec.and_allOnes]
  rwa [h, BitVec.zero_or] at hsplit

lemma field_eq (x m : BitVec w) (h : x &&& m = 0#w) (p : Prop) [Decidable p] :
    (if p then x &&& ~~~m else x ||| m) = x ||| if p then 0#w else m := by
  split_ifs
  · rw [and_clear x m h, BitVec.or_zero]
  · rfl

lemma and_field (x m : BitVec w) (h : x &&& m = 0#w) (p : Prop) [Decidable p] :
    (if p then 0#w else x) &&& m = 0#w := by
  split_ifs
  · exact BitVec.zero_and
  · exact h

variable {c : TermiosConstants w} {format : SerialFormat}

lemma sizeConstant_mem (c : TermiosConstants w) (dataBit : UInt8) :
    sizeConstant c dataBit ∈ [c.cs5, c.cs6, c.cs7, c.cs8] := by
  unfold sizeConstant
  split <;> simp

lemma TermiosConstants.Lawful.fields (hc : c.Lawful) (dataBit : UInt8) :
    [c.cread ||| c.clocal, sizeConstant c dataBit, c.cstopb, c.parenb, c.parodd].Pairwise
      (· &&& · = 0#w) := by
  have hsize := hc.size _ (sizeConstant_mem c dataBit)
  have hd := hc.disjoint
  have hleft {m : BitVec w} (h : c.csize &&& m = 0#w) : sizeConstant c dataBit &&& m = 0#w := by
    rw [← hsize, BitVec.and_assoc, h, BitVec.and_zero]
  have hright {m : BitVec w} (h : m &&& c.csize = 0#w) : m &&& sizeConstant c dataBit = 0#w := by
    rw [BitVec.and_comm] at h ⊢
    exact hleft h
  simp only [List.pairwise_cons, List.mem_cons, List.not_mem_nil, or_false, forall_eq_or_imp, forall_eq,
    false_imp_iff, implies_true, List.Pairwise.nil, and_true] at hd ⊢
  obtain ⟨⟨h₁, h₂, h₃, h₄⟩, ⟨h₅, h₆, h₇⟩, h₈, h₉⟩ := hd
  exact ⟨⟨hright h₁, h₂, h₃, h₄⟩, ⟨hleft h₅, hleft h₆, hleft h₇⟩, h₈, h₉⟩

lemma controlFlags_eq (hc : c.Lawful) : controlFlags c format =
    c.cread ||| c.clocal ||| sizeConstant c format.dataBit |||
      (if format.stopBit = 1 then 0#w else c.cstopb) |||
      (if format.parity = 78 then 0#w else c.parenb) |||
      (if format.parity = 78 ∨ format.parity = 69 then 0#w else c.parodd) := by
  have hf := hc.fields format.dataBit
  have hd := hc.disjoint
  simp only [List.pairwise_cons, List.mem_cons, List.not_mem_nil, or_false, forall_eq_or_imp, forall_eq,
    false_imp_iff, implies_true, List.Pairwise.nil, and_true] at hd hf
  obtain ⟨⟨hsize, -⟩, -⟩ := hd
  obtain ⟨⟨h₁, h₂, h₃, h₄⟩, ⟨h₅, h₆, h₇⟩, ⟨h₈, h₉⟩, h₁₀⟩ := hf
  rw [controlFlags, BitVec.zero_or, and_clear _ _ hsize]
  rw [field_eq _ c.cstopb (by simp only [BitVec.and_or_distrib_right, h₂, h₅, BitVec.or_zero])]
  have hparenb : (c.cread ||| c.clocal ||| sizeConstant c format.dataBit |||
      if format.stopBit = 1 then 0#w else c.cstopb) &&& c.parenb = 0#w := by
    simp only [BitVec.and_or_distrib_right, h₃, h₆, and_field _ _ h₈, BitVec.or_zero]
  have hparodd : (c.cread ||| c.clocal ||| sizeConstant c format.dataBit |||
      (if format.stopBit = 1 then 0#w else c.cstopb) ||| c.parenb) &&& c.parodd = 0#w := by
    simp only [BitVec.and_or_distrib_right, h₄, h₇, and_field _ _ h₉, h₁₀, BitVec.or_zero]
  rw [field_eq _ c.parodd hparodd]
  by_cases hnone : format.parity = 78
  · simp only [hnone, true_or, if_true, BitVec.or_zero]
    exact and_clear _ _ hparenb
  · simp only [hnone, false_or, if_false]

lemma portSettings_configured (hc : c.Lawful) : Configured c format (portSettings c format) := by
  have hf := hc.fields format.dataBit
  have hd := hc.disjoint
  simp only [List.pairwise_cons, List.mem_cons, List.not_mem_nil, or_false, forall_eq_or_imp, forall_eq,
    false_imp_iff, implies_true, List.Pairwise.nil, and_true] at hd hf
  obtain ⟨⟨hrx, -⟩, ⟨g₁, g₂, g₃⟩, -⟩ := hd
  obtain ⟨⟨h₁, h₂, h₃, h₄⟩, ⟨h₅, h₆, h₇⟩, ⟨h₈, h₉⟩, h₁₀⟩ := hf
  have hsize := hc.size _ (sizeConstant_mem c format.dataBit)
  have hcomm {x y : BitVec w} (h : x &&& y = 0#w) : y &&& x = 0#w := (BitVec.and_comm y x).trans h
  have hself (m : BitVec w) (p : Prop) [Decidable p] :
      (if p then 0#w else m) &&& m = if p then 0#w else m := by
    split_ifs
    · exact BitVec.zero_and
    · exact BitVec.and_self
  have hclear {m : BitVec w} (hm : m ≠ 0#w) (p : Prop) [Decidable p] : (if p then 0#w else m) = 0#w ↔ p := by
    split_ifs with hp
    · simp [hp]
    · simp [hp, hm]
  have hcflag : (portSettings c format).cflag = _ := controlFlags_eq hc
  have hiflag : (portSettings c format).iflag = if format.parity = 78 then 0#w else c.inpck := by
    rw [portSettings, inputFlags, field_eq _ _ BitVec.zero_and, BitVec.zero_or]
    exact and_clear _ _ (and_field _ _ hc.input _)
  obtain ⟨hstopb, hparenb, hparodd, hinpck⟩ := hc.nonzero
  refine ⟨⟨rfl, rfl⟩, ?_, ?_, ?_, ?_, ?_, ?_, ?_, ⟨BitVec.zero_and, BitVec.zero_and⟩⟩
  · rw [hcflag]
    generalize c.cread ||| c.clocal = rx at *
    simp only [BitVec.and_or_distrib_right, BitVec.and_self, hcomm h₁, and_field _ _ (hcomm h₂),
      and_field _ _ (hcomm h₃), and_field _ _ (hcomm h₄), BitVec.or_zero]
  · rw [hcflag]
    generalize c.cread ||| c.clocal = rx at *
    simp only [BitVec.and_or_distrib_right, hrx, hsize, and_field _ _ (hcomm g₁),
      and_field _ _ (hcomm g₂), and_field _ _ (hcomm g₃), BitVec.or_zero, BitVec.zero_or]
  · rw [hcflag]
    simp only [BitVec.and_or_distrib_right, h₂, h₅, hself, and_field _ _ (hcomm h₈),
      and_field _ _ (hcomm h₉), BitVec.or_zero, BitVec.zero_or, hclear hstopb]
  · rw [hcflag]
    simp only [BitVec.and_or_distrib_right, h₃, h₆, hself, and_field _ _ h₈,
      and_field _ _ (hcomm h₁₀), BitVec.or_zero, BitVec.zero_or, hclear hparenb]
  · intro hnone
    rw [hcflag]
    simp only [BitVec.and_or_distrib_right, h₄, h₇, hself, and_field _ _ h₉, and_field _ _ h₁₀,
      BitVec.or_zero, BitVec.zero_or, hclear hparodd, hnone, false_or]
  · rw [hiflag]
    simp only [hself, hclear hinpck]
  · rw [hiflag]
    exact and_field _ _ hc.input _

end Settings

namespace SerialPort

variable {w : ℕ} {c : TermiosConstants w} {format : SerialFormat}

section Worlds

lemma onWorld_runsAs {α : Type} (m : M α) : RunsAs (SerialPort.world (w := w)) (onWorld m) m :=
  .part (fun _ _ => rfl) m

lemma save_runsAs (s : ℤ) : RunsAs (SerialPort.world (w := w)) (save s) (osIgnored (.tcgetattr s)) := by
  refine .bind (onWorld_runsAs _) fun _ => .bind (onWorld_runsAs ask) fun r => ?_
  cases r.trouble with
  | none => exact .unseen (fun _ => rfl) (.pure _)
  | some e => exact onWorld_runsAs _

lemma rtuConnect_runsAs : RunsAs SerialPort.world (rtuConnect c format) LibModbus.rtuConnect := by
  refine .bind (onWorld_runsAs _) fun s => .bind (onWorld_runsAs _) fun _ => ?_
  refine .unseen (fun _ => rfl) (.ite (.pure _) ?_)
  refine .bind (save_runsAs s) fun _ => .bind (onWorld_runsAs _) fun rc => .ite ?_ ?_
  · refine .bind (onWorld_runsAs _) fun _ => .unseen (fun _ => rfl) ?_
    exact .bind (onWorld_runsAs _) fun _ => .pure _
  · exact .unseen (fun _ => rfl) (.pure _)

lemma restore_runsAs (s : ℤ) : RunsAs (SerialPort.world (w := w)) (restore s) (osIgnored (.tcsetattr s)) := by
  refine .bind (onWorld_runsAs _) fun _ => .bind (onWorld_runsAs ask) fun r => ?_
  cases r.trouble with
  | none =>
    refine fun port => congrArg (Outcome.done ()) ?_
    dsimp only
    split <;> rfl
  | some e => exact onWorld_runsAs _

lemma rtuClose_runsAs : RunsAs (SerialPort.world (w := w)) rtuClose LibModbus.rtuClose := by
  refine .get fun port => .bind (restore_runsAs _) fun _ => ?_
  exact .unseen_after (fun _ => rfl) (onWorld_runsAs _)

lemma reconnect_world {port : SerialPort w} (hb : port.world.ctx.backend = .rtu) :
    (reconnect c format port).onState SerialPort.world = LibModbus.reconnect port.world := by
  have hclose : modbusClose port.world = LibModbus.rtuClose port.world := by
    rw [modbusClose, bind_getCtx, hb]
  have h := rtuClose_runsAs port
  rw [reconnect, LibModbus.reconnect]
  cases hm : rtuClose port with
  | blocked port' =>
    rw [hm] at h
    rw [bind_blocked hm, bind_blocked (hclose.trans h.symm)]
    rfl
  | done u port' =>
    rw [hm] at h
    have hconfig : SameConfig port.world port'.world :=
      (Neutral.modbusClose (R := SameConfig)).done (hclose.trans h.symm)
    have hconnect : modbusConnect port'.world = LibModbus.rtuConnect port'.world := by
      rw [modbusConnect, bind_getCtx, hconfig.backend, hb]
    rw [bind_done hm, bind_done (hclose.trans h.symm), bind_get_apply, bind_get_apply,
      bind_apply modbusConnect, hconnect]
    exact RunsAs.bind rtuConnect_runsAs (fun _ => onWorld_runsAs _) port'

end Worlds

section Steps

variable {port port' : SerialPort w} {tty : Termios w}

lemma onWorld_keeps {α : Type} {P : SerialPort w → Prop} (hP : ∀ world port, P port → P { port with world })
    (m : M α) : Triple P (onWorld m) (fun _ => P) fun _ => True := by
  intro port h
  rw [onWorld, Prog.onPart]
  cases m port.world with
  | done a world => exact hP world port h
  | blocked world => trivial

lemma onWorld_done {α : Type} {m : M α} {a : α} (h : onWorld m port = .done a port') :
    ∃ world, m port.world = .done a world ∧ port' = { port with world } := by
  rw [onWorld, Prog.onPart] at h
  cases hm : m port.world with
  | done a' world =>
    rw [hm] at h
    cases h
    exact ⟨world, rfl, rfl⟩
  | blocked world =>
    rw [hm] at h
    cases h

lemma ask_done {u v : World} {r : Response} (h : ask u = .done r v) : u.script = r :: v.script := by
  unfold ask at h
  cases hs : u.script with
  | nil =>
    rw [hs] at h
    cases h
  | cons r' rest =>
    rw [hs] at h
    cases h
    rfl

lemma osDescriptor_done {u v : World} {s : ℤ} (h : osDescriptor u = .done s v) (hs : s ≠ -1) :
    ∃ r, u.script = r :: v.script ∧ r.descriptor.isOk := by
  obtain ⟨r, ⟨fd, hr, -, hasked⟩ | ⟨e, -, hfailed, -⟩⟩ := osDescriptor_asked.done rfl h
  · exact ⟨r, hasked.script, by rw [hr]; rfl⟩
  · exact absurd hfailed hs

lemma recorded_done {α : Type} {call : Call} {f : Response → Prog (SerialPort w) α} {a : α}
    (h : (onWorld (record call) >>= fun _ => onWorld ask >>= f) port = .done a port') :
    ∃ r world, port.world.script = r :: world.script ∧ f r { port with world } = .done a port' := by
  rw [bind_eq_done] at h
  obtain ⟨⟨⟩, port₁, hrecord, h⟩ := h
  cases hrecord
  rw [bind_eq_done] at h
  obtain ⟨r, port₂, hask, h⟩ := h
  obtain ⟨world, hanswer, rfl⟩ := onWorld_done hask
  exact ⟨r, world, ask_done (u := { port.world with trace := port.world.trace ++ [call] }) hanswer, h⟩

lemma save_done {s : ℤ} (h : save s port = .done () port') : ∃ r, port.world.script = r :: port'.world.script ∧
    port'.opened = port.opened ∧ port'.tty = port.tty ∧
    port'.oldTios = if r.trouble.isSome then port.oldTios else port.tty := by
  obtain ⟨r, world, hscript, h⟩ := recorded_done h
  refine ⟨r, ?_⟩
  cases hr : r.trouble with
  | none =>
    simp only [hr] at h
    cases h
    exact ⟨hscript, rfl, rfl, rfl⟩
  | some e =>
    simp only [hr] at h
    cases h
    exact ⟨hscript, rfl, rfl, rfl⟩

def saveFails : List Response → Bool
  | opened :: saved :: _ => opened.descriptor.isOk && saved.trouble.isSome
  | _ => false

/-- The last steps of `_modbus_rtu_connect`, when `old` was saved. -/
lemma configure_ends (s : ℤ) {old : Termios w} :
    Triple (fun port : SerialPort w => port.opened = true ∧ port.tty = tty ∧ port.oldTios = old)
      (onWorld (osOption (.tcsetattr s)) >>= fun rc => if rc < 0 then do
          onWorld (osClose s)
          Prog.modify fun port => { port with opened := false }
          onWorld (setSocket (-1))
          return -1
        else do
          Prog.modify fun port => { port with tty := portSettings c format }
          return 0)
      (fun _ port => port.opened = false ∧ port.tty = tty ∧ port.oldTios = old ∨
        port.opened = true ∧ port.tty = portSettings c format ∧ port.oldTios = old)
      fun _ => True := by
  refine .bind (onWorld_keeps (fun _ _ h => h) _) fun rc => .ite (fun _ => ?_) fun _ => ?_
  · refine .bind (onWorld_keeps (fun _ _ h => h) _) fun _ => ?_
    refine .bind (Q := fun _ port => port.opened = false ∧ port.tty = tty ∧ port.oldTios = old)
      (.modify fun _ h => ⟨rfl, h.2⟩) fun _ => ?_
    exact .bind (onWorld_keeps (fun _ _ h => h) _) fun _ => .pure fun _ h => .inl h
  · exact .bind (Q := fun _ port => port.opened = true ∧ port.tty = portSettings c format ∧ port.oldTios = old)
      (.modify fun _ h => ⟨h.1, rfl, h.2.2⟩) fun _ => .pure fun _ h => .inr h

lemma rtuConnect_cases {rc : ℤ} (h : rtuConnect c format port = .done rc port') :
    port'.opened = false ∧ port'.tty = port.tty ∧
        (port'.oldTios = port.oldTios ∨ port'.oldTios = port.tty) ∨
      port'.opened = true ∧ port'.tty = portSettings c format ∧
        port'.oldTios = if saveFails port.world.script then port.oldTios else port.tty := by
  rw [rtuConnect, bind_eq_done] at h
  obtain ⟨s, port₁, hopen, h⟩ := h
  obtain ⟨world, hdescriptor, rfl⟩ := onWorld_done hopen
  rw [bind_eq_done] at h
  obtain ⟨⟨⟩, port₂, hsocket, h⟩ := h
  cases hsocket
  rw [bind_eq_done] at h
  obtain ⟨⟨⟩, port₃, hopened, h⟩ := h
  cases hopened
  by_cases hs : s = -1
  · rw [if_pos hs] at h
    cases h
    exact .inl ⟨by simp [hs], rfl, .inl rfl⟩
  · obtain ⟨r, hr, hok⟩ := osDescriptor_done hdescriptor hs
    rw [if_neg hs, bind_eq_done] at h
    obtain ⟨⟨⟩, port₄, hsave, h⟩ := h
    obtain ⟨r', hr', ho, htty, hold⟩ := save_done hsave
    have hfails : saveFails port.world.script = r'.trouble.isSome := by
      rw [hr, show world.script = r' :: port₄.world.script from hr', saveFails, hok, Bool.true_and]
    rw [hfails]
    have hstart : port₄.opened = true := ho.trans (by simp [hs])
    rcases (configure_ends s).done ⟨hstart, htty, rfl⟩ h with ⟨ho', htty', hold'⟩ | ⟨ho', htty', hold'⟩
    · refine .inl ⟨ho', htty', ?_⟩
      rw [hold', hold]
      split_ifs
      · exact .inl rfl
      · exact .inr rfl
    · exact .inr ⟨ho', htty', hold'.trans hold⟩

def restoreFails (port : SerialPort w) : Bool :=
  port.opened && port.world.script.head?.any fun r => r.trouble.isSome

lemma restore_done {s : ℤ} (h : restore s port = .done () port') :
    (∃ r, port.world.script = r :: port'.world.script) ∧ port'.oldTios = port.oldTios ∧
      port'.tty = if port.opened ∧ ¬port.restoreFails then port.oldTios else port.tty := by
  obtain ⟨r, world, hscript, h⟩ := recorded_done h
  have hfails : port.restoreFails = (port.opened && r.trouble.isSome) := by
    rw [restoreFails, hscript, List.head?_cons, Option.any_some]
  cases hr : r.trouble with
  | none =>
    simp only [hr] at h
    cases h
    cases ho : port.opened <;> simp [hfails, hscript, ho, hr]
  | some e =>
    simp only [hr] at h
    cases h
    cases ho : port.opened <;> simp [hfails, hscript, ho, hr]

lemma rtuClose_done (h : rtuClose port = .done () port') :
    port'.world.script = port.world.script.drop 2 ∧ port'.opened = false ∧ port'.oldTios = port.oldTios ∧
      port'.tty = if port.opened ∧ ¬port.restoreFails then port.oldTios else port.tty := by
  rw [rtuClose, bind_get_apply, bind_eq_done] at h
  obtain ⟨⟨⟩, port₁, hrestore, h⟩ := h
  obtain ⟨⟨r, hscript⟩, hold, htty⟩ := restore_done hrestore
  rw [bind_eq_done] at h
  obtain ⟨⟨⟩, port₂, hclose, h⟩ := h
  obtain ⟨world, hclosed, rfl⟩ := onWorld_done hclose
  obtain ⟨r', hasked⟩ := (osIgnored_asked _).done rfl hclosed
  cases h
  refine ⟨?_, rfl, hold, htty⟩
  rw [hscript, hasked.script]
  rfl

end Steps

end SerialPort

inductive PortAct where
  | connect
  | close
  | recover

structure PortTurn where
  act : PortAct
  script : List Response

namespace SerialPort

variable {w : ℕ} {c : TermiosConstants w} {format : SerialFormat} {port port' : SerialPort w}

def arrive (port : SerialPort w) (turn : PortTurn) : SerialPort w :=
  { port with world := { port.world with script := turn.script } }

def finished {α : Type} : Outcome (SerialPort w) α → Option (SerialPort w)
  | .done _ port => some port
  | .blocked _ => none

lemma finished_eq_some {α : Type} {o : Outcome (SerialPort w) α} (h : finished o = some port) :
    ∃ a, o = .done a port := by
  cases o with
  | done a port' =>
    obtain rfl := Option.some.inj h
    exact ⟨a, rfl⟩
  | blocked port' => cases h

def step (c : TermiosConstants w) (format : SerialFormat) (port : SerialPort w) (turn : PortTurn) :
    Option (SerialPort w) :=
  match turn.act with
  | .connect => finished (rtuConnect c format (port.arrive turn))
  | .close => finished (rtuClose (port.arrive turn))
  | .recover => finished (reconnect c format (port.arrive turn))

/-- Whether the turn closes the port and does not set it back. -/
def forgets (port : SerialPort w) (turn : PortTurn) : Bool :=
  match turn.act with
  | .connect => false
  | .close | .recover => (port.arrive turn).restoreFails

/-- Whether the turn opens the port without saving what it was set to before the context came: the context
has it open already, or `tcgetattr()` fails. The first two answers of a recovery are those to the close. -/
def strays (port : SerialPort w) (turn : PortTurn) : Bool :=
  match turn.act with
  | .connect => port.opened || saveFails turn.script
  | .close => false
  | .recover => saveFails (turn.script.drop 2)

/-- Whether one of the turns forgets, and whether one strays, is in the result. -/
def run (c : TermiosConstants w) (format : SerialFormat) (port : SerialPort w) :
    List PortTurn → Option (SerialPort w × Bool × Bool)
  | [] => some (port, false, false)
  | turn :: turns => do
    let next ← port.step c format turn
    let (last, forgotten, strayed) ← next.run c format turns
    return (last, port.forgets turn || forgotten, port.strays turn || strayed)

def left (c : TermiosConstants w) (format : SerialFormat) (tty : Termios w) (forgotten : Bool) : Termios w :=
  if forgotten then portSettings c format else tty

def known (c : TermiosConstants w) (format : SerialFormat) (start : SerialPort w) : List (Termios w) :=
  [portSettings c format, start.tty, start.oldTios]

structure Stands (c : TermiosConstants w) (format : SerialFormat) (start : SerialPort w) (forgotten strayed : Bool)
    (port : SerialPort w) : Prop where
  set : port.opened = true → port.tty = portSettings c format
  tty_known : port.tty ∈ known c format start
  old_known : port.oldTios ∈ known c format start
  saved : strayed = false → port.opened = true → port.oldTios = left c format start.tty forgotten
  closed : strayed = false → port.opened = false → port.tty = left c format start.tty forgotten

variable {start : SerialPort w} {forgotten strayed : Bool}

lemma Stands.connect (h : Stands c format start forgotten strayed port) {rc : ℤ}
    (hrun : rtuConnect c format port = .done rc port') :
    Stands c format start forgotten (strayed || (port.opened || saveFails port.world.script)) port' := by
  rcases rtuConnect_cases hrun with ⟨ho, htty, hold⟩ | ⟨ho, htty, hold⟩
  · refine ⟨fun hopen => absurd (ho.symm.trans hopen) (by decide), htty ▸ h.tty_known, ?_,
      fun _ hopen => absurd (ho.symm.trans hopen) (by decide), fun horderly _ => ?_⟩
    · rcases hold with hold | hold
      · exact hold ▸ h.old_known
      · exact hold ▸ h.tty_known
    · obtain ⟨hstrayed, hclosed, -⟩ := by simpa only [Bool.or_eq_false_iff] using horderly
      exact htty.trans (h.closed hstrayed hclosed)
  · refine ⟨fun _ => htty, htty ▸ List.mem_cons_self, ?_, fun horderly _ => ?_,
      fun _ hclosed => absurd (ho.symm.trans hclosed) (by decide)⟩
    · rw [hold]
      split_ifs
      · exact h.old_known
      · exact h.tty_known
    · obtain ⟨hstrayed, hclosed, hsaves⟩ := by simpa only [Bool.or_eq_false_iff] using horderly
      rw [hold, hsaves, if_neg (by decide)]
      exact h.closed hstrayed hclosed

lemma Stands.close (h : Stands c format start forgotten strayed port) (hrun : rtuClose port = .done () port') :
    Stands c format start (forgotten || port.restoreFails) strayed port' := by
  obtain ⟨-, ho, hold, htty⟩ := rtuClose_done hrun
  refine ⟨fun hopen => absurd (ho.symm.trans hopen) (by decide), ?_, hold ▸ h.old_known,
    fun _ hopen => absurd (ho.symm.trans hopen) (by decide), fun hstrayed _ => ?_⟩
  · rw [htty]
    split_ifs
    · exact h.old_known
    · exact h.tty_known
  rw [htty]
  cases hopen : port.opened with
  | false =>
    have hfails : port.restoreFails = false := by rw [restoreFails, hopen, Bool.false_and]
    simp only [hfails, Bool.or_false, Bool.false_eq_true, false_and, if_false]
    exact h.closed hstrayed hopen
  | true =>
    cases hfails : port.restoreFails with
    | false =>
      simp only [Bool.or_false, Bool.false_eq_true, not_false_eq_true, and_self, if_true]
      exact h.saved hstrayed hopen
    | true =>
      simp only [Bool.or_true, not_true_eq_false, and_false, if_false, left, if_true]
      exact h.set hopen

lemma Stands.step (h : Stands c format start forgotten strayed port) {turn : PortTurn}
    (hs : port.step c format turn = some port') :
    Stands c format start (forgotten || port.forgets turn) (strayed || port.strays turn) port' := by
  have harrive : Stands c format start forgotten strayed (port.arrive turn) :=
    ⟨h.set, h.tty_known, h.old_known, h.saved, h.closed⟩
  rw [SerialPort.step] at hs
  rw [forgets, strays]
  cases hact : turn.act with
  | connect =>
    simp only [hact] at hs
    obtain ⟨rc, hrun⟩ := finished_eq_some hs
    rw [Bool.or_false]
    exact harrive.connect hrun
  | close =>
    simp only [hact] at hs
    obtain ⟨⟨⟩, hrun⟩ := finished_eq_some hs
    rw [Bool.or_false]
    exact harrive.close hrun
  | recover =>
    simp only [hact] at hs
    obtain ⟨⟨⟩, hrun⟩ := finished_eq_some hs
    rw [reconnect, bind_eq_done] at hrun
    obtain ⟨⟨⟩, port₁, hclose, hrun⟩ := hrun
    obtain ⟨hscript, hclosed, -⟩ := rtuClose_done hclose
    rw [bind_get_apply, bind_eq_done] at hrun
    obtain ⟨rc, port₂, hconnect, hrecord⟩ := hrun
    cases hrecord
    have hend := (harrive.close hclose).connect hconnect
    rw [hclosed, Bool.false_or, hscript] at hend
    exact ⟨hend.set, hend.tty_known, hend.old_known, hend.saved, hend.closed⟩

lemma Stands.run (h : Stands c format start forgotten strayed port) {turns : List PortTurn} {later later' : Bool}
    (hs : port.run c format turns = some (port', later, later')) :
    Stands c format start (forgotten || later) (strayed || later') port' := by
  induction turns generalizing port forgotten strayed later later' with
  | nil =>
    obtain ⟨rfl, rfl, rfl⟩ := by simpa only [SerialPort.run, Option.some.injEq, Prod.mk.injEq] using hs
    rwa [Bool.or_false, Bool.or_false]
  | cons turn turns ih =>
    obtain ⟨next, hnext, hs⟩ := Option.bind_eq_some_iff.mp hs
    obtain ⟨⟨last, forgotten', strayed'⟩, hlast, hs⟩ := Option.bind_eq_some_iff.mp hs
    obtain ⟨rfl, rfl, rfl⟩ := by simpa only [Option.pure_def, Option.some.injEq, Prod.mk.injEq] using hs
    rw [← Bool.or_assoc, ← Bool.or_assoc]
    exact ih (h.step hnext) hlast

def linux : TermiosConstants 32 where
  b n := ([(110, 3), (300, 7), (600, 8), (1200, 9), (2400, 11), (4800, 12), (9600, 13), (19200, 14), (38400, 15),
    (57600, 4097), (115200, 4098)].lookup n).getD 0
  cread := 0x80
  clocal := 0x800
  csize := 0x30
  cs5 := 0
  cs6 := 0x10
  cs7 := 0x20
  cs8 := 0x30
  cstopb := 0x40
  parenb := 0x100
  parodd := 0x200
  icanon := 0x2
  echo := 0x8
  echoe := 0x10
  isig := 0x1
  inpck := 0x10
  ixon := 0x400
  ixoff := 0x1000
  ixany := 0x800
  opost := 0x1
  vmin := 6
  vtime := 5

lemma linux_lawful : linux.Lawful := by
  refine ⟨by decide, fun cs hcs => ?_, by decide, by decide⟩
  simp only [List.mem_cons, List.not_mem_nil, or_false] at hcs
  rcases hcs with rfl | rfl | rfl | rfl <;> decide

def unused : SerialPort 32 where
  world := .start modbusNewRtu [] []
  oldTios := ⟨0, 0, 0, 0, fun _ => 0, 0, 0⟩
  tty := ⟨0x500, 0x5, 0xBF, 0x8A3B, fun _ => 0, 15, 15⟩
  opened := false

/-- The descriptor has gone bad when the link is recovered, so that `tcsetattr()` fails. -/
def recoveredOnce : List PortTurn :=
  [⟨.connect, List.replicate 3 {}⟩, ⟨.recover, { trouble := some .ebadf } :: List.replicate 4 {}⟩,
    ⟨.close, List.replicate 2 {}⟩]

/-- A second connection saves what the first one has set, and every call succeeds. -/
example : (unused.run linux ⟨19200, 69, 8, 1⟩ [⟨.connect, List.replicate 3 {}⟩, ⟨.connect, List.replicate 3 {}⟩,
    ⟨.close, List.replicate 2 {}⟩]).map (fun r => (r.1.tty.cflag, r.2)) =
      some (controlFlags linux ⟨19200, 69, 8, 1⟩, false, true) := by
  decide +kernel

end SerialPort

end LibModbus
