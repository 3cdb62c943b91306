import LibModbus.Link.Attached

/-! What every run of the connection layer preserves, whatever the operating system answers. -/

namespace LibModbus

open Library Library.Prog

def Call.carriesBytes : Call → Bool
  | .stored _ _ | .send _ _ => true
  | _ => false

/-- A relation between worlds that calls keep when they move no bytes and change no descriptor. -/
class Silent (R : World → World → Prop) : Prop extends Std.Refl R, IsTrans World R where
  script (w : World) (script : List Response) (h : script <:+ w.script) : R w { w with script }
  errno (w : World) (errno : Errno) : R w { w with errno }
  call (w : World) (c : Call) (h : c.carriesBytes = false) : R w { w with trace := w.trace ++ [c] }

class Quiet (R : World → World → Prop) : Prop extends Silent R where
  rx (w : World) (rx : List UInt8) : R w { w with rx }
  socket (w : World) (s : ℤ) : R w { w with ctx := { w.ctx with s } }

class Neutral (R : World → World → Prop) : Prop extends Quiet R where
  tx (w : World) (tx : List UInt8) : R w { w with tx }
  send (w : World) (fd : ℤ) (msg : List UInt8) : R w { w with trace := w.trace ++ [.send fd msg] }

namespace Neutral

section Silent

variable {R : World → World → Prop} [Silent R]

lemma ask : Keeps R ask := by
  intro w
  unfold LibModbus.ask
  cases h : w.script with
  | nil => exact Std.Refl.refl w
  | cons r rest => exact Silent.script w rest (h ▸ List.suffix_cons r rest)

lemma getCtx : Keeps R getCtx := fun w => Std.Refl.refl w

lemma getErrno : Keeps R getErrno := fun w => Std.Refl.refl w

lemma setErrno (e : Errno) : Keeps R (setErrno e) := fun w => Silent.errno w e

lemma record {c : Call} (h : c.carriesBytes = false) : Keeps R (record c) := fun w => Silent.call w c h

lemma osIgnored {c : Call} (h : c.carriesBytes = false) : Keeps R (osIgnored c) := by
  refine .bind (record h) fun _ => .bind ask fun r => ?_
  cases r.trouble with
  | none => exact .pure ()
  | some e => exact setErrno e

lemma osOption {c : Call} (h : c.carriesBytes = false) : Keeps R (osOption c) := by
  refine .bind (record h) fun _ => .bind ask fun r => ?_
  cases r.option with
  | none => exact .pure 0
  | some e => exact .bind (setErrno e) fun _ => .pure _

instance (w₀ : World) : Bound (R w₀) (R w₀) where
  left _ h := h
  script w x hx h := IsTrans.trans _ _ _ h (Silent.script w x hx)
  errno w x h := IsTrans.trans _ _ _ h (Silent.errno w x)
  use w c hc h := by
    refine IsTrans.trans _ _ _ h (Silent.call w c ?_)
    cases c <;> first | rfl | exact absurd hc not_false

lemma backendSelect (tv : Option Timeval) : Keeps R (backendSelect tv) :=
  .of_maintains fun _ => Attached.backendSelect tv

end Silent

section Quiet

variable {R : World → World → Prop} [Quiet R]

lemma setSocket (s : ℤ) : Keeps R (setSocket s) := fun w => Quiet.socket w s

lemma osDescriptor : Keeps R osDescriptor := by
  refine .bind ask fun r => ?_
  cases r.descriptor with
  | ok fd => exact .bind (record rfl) fun _ => .pure _
  | error e => exact .bind (setErrno e) fun _ => .pure _

lemma tcpSetIpv4Options (s : ℤ) : Keeps R (tcpSetIpv4Options s) := by
  refine .bind (osOption rfl) fun _ => .ite (.pure _) ?_
  exact .bind (osOption rfl) fun _ => .ite (.pure _) (.pure _)

lemma osSelectWritable (s : ℤ) (tv : Option Timeval) : Keeps R (osSelectWritable s tv) := by
  rw [osSelectWritable_variable]
  refine .bind (record rfl) fun _ => .bind ask fun r => ?_
  dsimp only
  cases r.writable with
  | error e => exact .bind (setErrno e) fun _ => .pure _
  | ok ready => cases ready <;> exact .pure _

lemma connectSocket (s : ℤ) : Keeps R (connectSocket s (some TimeoutField.responseTimeout)) := by
  rw [connectSocket_responseTimeout]
  refine .bind getCtx fun ctx => ?_
  rw [connectSocket_variable]
  refine .bind (record rfl) fun _ => .bind ask fun r => ?_
  cases r.connect with
  | ok _ => exact .pure _
  | error e =>
    refine .bind (setErrno e) fun _ => .ite ?_ (.pure _)
    refine .bind (osSelectWritable s _) ?_
    rintro ⟨rc, tv⟩
    exact .ite (.pure _) (.bind ask fun r => .ite (.pure _) (.bind (setErrno _) fun _ => .pure _))

lemma tcpConnect : Keeps R tcpConnect := by
  refine .bind osDescriptor fun s => .bind (setSocket s) fun _ => .ite (.pure _) ?_
  refine .bind (tcpSetIpv4Options s) fun rc => .ite (.bind (osIgnored rfl) fun _ => .pure _) ?_
  refine .bind (connectSocket s) fun rc => ?_
  exact .ite (.bind (osIgnored rfl) fun _ => .pure _) (.pure _)

lemma tcpPiConnectLoop (aiList : List Bool) : Keeps R (tcpPiConnectLoop aiList) := by
  induction aiList with
  | nil => exact .pure ()
  | cons inet rest ih =>
    have hc (s : ℤ) : Keeps R (do
        let rc ← LibModbus.connectSocket s (some TimeoutField.responseTimeout)
        if rc = -1 then do
          osClose s
          LibModbus.tcpPiConnectLoop rest
        else LibModbus.setSocket s) :=
      .bind (connectSocket s) fun rc =>
        .ite (.bind (osIgnored rfl) fun _ => ih) (setSocket s)
    exact .bind osDescriptor fun s => .ite ih (.ite (.bind (tcpSetIpv4Options s) fun _ => hc s) (hc s))

lemma tcpPiConnect : Keeps R tcpPiConnect := by
  refine .bind ask fun r => ?_
  cases r.addresses with
  | none => exact .pure _
  | some aiList =>
    exact .bind (tcpPiConnectLoop aiList) fun _ => .bind getCtx fun _ => .ite (.pure _) (.pure _)

lemma rtuConnect : Keeps R rtuConnect := by
  refine .bind osDescriptor fun s => .bind (setSocket s) fun _ => .ite (.pure _) ?_
  refine .bind (osIgnored rfl) fun _ => .bind (osOption rfl) fun rc => .ite ?_ (.pure _)
  exact .bind (osIgnored rfl) fun _ => .bind (setSocket _) fun _ => .pure _

lemma modbusConnect : Keeps R modbusConnect := by
  refine .bind getCtx fun ctx => ?_
  cases ctx.backend with
  | rtu => exact rtuConnect
  | tcp => exact tcpConnect
  | tcpPi => exact tcpPiConnect

lemma modbusClose : Keeps R modbusClose := by
  refine .bind getCtx fun ctx => ?_
  cases ctx.backend with
  | rtu | tcp | tcpPi =>
    exact .bind getCtx fun _ => .bind (osIgnored rfl) fun _ => osIgnored rfl

lemma reconnect : Keeps R reconnect :=
  .bind modbusClose fun _ => .bind .get fun _ => .bind modbusConnect fun _ => record rfl

instance (w₀ : World) : Attached (R w₀) (R w₀) where
  rx w x h := IsTrans.trans _ _ _ h (Quiet.rx w x)
  reconnect := reconnect.maintains w₀

lemma checkIntegrity (msg : Mem UInt8) (msgLength : ℕ) : Keeps R (checkIntegrity msg msgLength) :=
  .of_maintains fun _ => Attached.checkIntegrity msg msgLength

lemma recoverAfterSelect : Keeps R recoverAfterSelect :=
  .of_maintains fun _ => Attached.recoverAfterSelect

lemma recoverAfterRecv : Keeps R recoverAfterRecv :=
  .of_maintains fun _ => Attached.recoverAfterRecv

lemma checkConfirmation (req : List UInt8) (rsp : Mem UInt8) (rspLength : ℤ) :
    Keeps R (checkConfirmation req rsp rspLength) :=
  .of_maintains fun _ => Attached.checkConfirmation req rsp rspLength

lemma receiveMsg (stored : ∀ w o n, R w { w with trace := w.trace ++ [.stored o n] })
    (msgType : MsgType) (msg : Mem UInt8) : Keeps R (receiveMsg msgType msg) :=
  .of_maintains fun _ =>
    Attached.receiveMsg (fun w o n h => IsTrans.trans _ _ _ h (stored w o n)) msgType msg

end Quiet

section Neutral

variable {R : World → World → Prop} [Neutral R]

lemma sendMsg (msg : List UInt8) : Keeps R (sendMsg msg) :=
  .of_maintains fun _ => Attached.sendMsg
    (fun _ w _ h => IsTrans.trans _ _ _ h (Neutral.send w w.ctx.s _))
    fun w x h => IsTrans.trans _ _ _ h (Neutral.tx w x)

end Neutral

end Neutral

section Relations

def SameConfig (w w' : World) : Prop := w'.ctx = { w.ctx with s := w'.ctx.s }

instance : Neutral SameConfig where
  refl _ := rfl
  trans u v w huv hvw := by
    unfold SameConfig at *
    rw [hvw, huv]
  script _ _ _ := rfl
  errno _ _ := rfl
  rx _ _ := rfl
  tx _ _ := rfl
  socket _ _ := rfl
  call _ _ _ := rfl
  send _ _ _ := rfl

lemma SameConfig.backend {w w' : World} (h : SameConfig w w') : w'.ctx.backend = w.ctx.backend := by
  rw [h]

def StoredBelow (k : ℕ) (w w' : World) : Prop :=
  ∃ calls, w'.trace = w.trace ++ calls ∧ ∀ o n, .stored o n ∈ calls → o + n ≤ k

lemma StoredBelow.mono {k k' : ℕ} {w w' : World} (h : StoredBelow k w w') (hk : k ≤ k') :
    StoredBelow k' w w' := by
  obtain ⟨calls, ht, hs⟩ := h
  exact ⟨calls, ht, fun o n hm => (hs o n hm).trans hk⟩

instance (k : ℕ) : Neutral (StoredBelow k) where
  refl w := ⟨[], by simp, by simp⟩
  trans u v w := by
    rintro ⟨cs, hcs, hc⟩ ⟨ds, hds, hd⟩
    refine ⟨cs ++ ds, by rw [hds, hcs, List.append_assoc], fun o n hm => ?_⟩
    rcases List.mem_append.mp hm with hm | hm
    · exact hc o n hm
    · exact hd o n hm
  script w _ _ := ⟨[], by simp, by simp⟩
  errno w _ := ⟨[], by simp, by simp⟩
  rx w _ := ⟨[], by simp, by simp⟩
  tx w _ := ⟨[], by simp, by simp⟩
  socket w _ := ⟨[], by simp, by simp⟩
  call w c h := by
    refine ⟨[c], rfl, fun o n hm => ?_⟩
    rw [List.mem_singleton] at hm
    rw [← hm] at h
    exact absurd h (by simp [Call.carriesBytes])
  send w fd msg := ⟨[.send fd msg], rfl, by simp⟩

def Call.storedLength : Call → ℕ
  | .stored _ n => n
  | _ => 0

def Took (n : ℕ) (w w' : World) : Prop :=
  ∃ calls, w'.trace = w.trace ++ calls ∧ (calls.map Call.storedLength).sum = n

lemma Took.trans {n m : ℕ} {u v w : World} (h : Took n u v) (h' : Took m v w) :
    Took (n + m) u w := by
  obtain ⟨cs, hcs, rfl⟩ := h
  obtain ⟨ds, hds, rfl⟩ := h'
  exact ⟨cs ++ ds, by rw [hds, hcs, List.append_assoc], by rw [List.map_append, List.sum_append]⟩

lemma Took.unique {n m : ℕ} {w w' : World} (h : Took n w w') (h' : Took m w w') : n = m := by
  obtain ⟨cs, hcs, rfl⟩ := h
  obtain ⟨ds, hds, rfl⟩ := h'
  rw [List.append_cancel_left (hcs.symm.trans hds)]

lemma StoredBelow.took {w w' : World} (h : StoredBelow 0 w w') : Took 0 w w' := by
  obtain ⟨calls, ht, hs⟩ := h
  refine ⟨calls, ht, List.sum_eq_zero fun k hk => ?_⟩
  obtain ⟨c, hc, rfl⟩ := List.mem_map.mp hk
  cases c with
  | stored o n => exact Nat.eq_zero_of_add_eq_zero_left (Nat.le_zero.mp (hs o n hc))
  | opened | setsockopt | connect | send | recv | select | shutdown | close | tcgetattr | tcsetattr
  | tcflush | reconnecting => rfl

def Shrinks (w w' : World) : Prop := w'.script <:+ w.script

instance : Neutral Shrinks where
  refl _ := List.suffix_rfl
  trans _ _ _ h h' := h'.trans h
  script _ _ h := h
  errno _ _ := List.suffix_rfl
  rx _ _ := List.suffix_rfl
  tx _ _ := List.suffix_rfl
  socket _ _ := List.suffix_rfl
  call _ _ _ := List.suffix_rfl
  send _ _ _ := List.suffix_rfl

structure Idle (w w' : World) : Prop where
  ctx : w'.ctx = w.ctx
  rx : w'.rx = w.rx
  tx : w'.tx = w.tx
  stored : StoredBelow 0 w w'
  script : Shrinks w w'

instance : Silent Idle where
  refl w := ⟨rfl, rfl, rfl, Std.Refl.refl w, Std.Refl.refl w⟩
  trans u v w h h' := ⟨h'.1.trans h.1, h'.2.trans h.2, h'.3.trans h.3,
    IsTrans.trans u v w h.4 h'.4, IsTrans.trans u v w h.5 h'.5⟩
  script w x h := ⟨rfl, rfl, rfl, Silent.script w x h, h⟩
  errno w x := ⟨rfl, rfl, rfl, Silent.errno w x, List.suffix_rfl⟩
  call w c h := ⟨rfl, rfl, rfl, Silent.call w c h, List.suffix_rfl⟩

def Outside (k : ℕ) (w w' : World) : Prop := SameConfig w w' ∧ StoredBelow k w w'

instance (k : ℕ) : Neutral (Outside k) where
  refl w := ⟨Std.Refl.refl w, Std.Refl.refl w⟩
  trans u v w h h' := ⟨IsTrans.trans u v w h.1 h'.1, IsTrans.trans u v w h.2 h'.2⟩
  script w x h := ⟨Silent.script w x h, Silent.script w x h⟩
  errno w x := ⟨Silent.errno w x, Silent.errno w x⟩
  rx w x := ⟨Quiet.rx w x, Quiet.rx w x⟩
  tx w x := ⟨Neutral.tx w x, Neutral.tx w x⟩
  socket w x := ⟨Quiet.socket w x, Quiet.socket w x⟩
  call w c h := ⟨Silent.call w c h, Silent.call w c h⟩
  send w fd msg := ⟨Neutral.send w fd msg, Neutral.send w fd msg⟩

structure Unsent (w w' : World) : Prop where
  config : SameConfig w w'
  tx : w'.tx = w.tx

instance : Quiet Unsent where
  refl w := ⟨Std.Refl.refl w, rfl⟩
  trans u v w h h' := ⟨IsTrans.trans u v w h.1 h'.1, h'.2.trans h.2⟩
  script w x h := ⟨Silent.script w x h, rfl⟩
  errno w x := ⟨Silent.errno w x, rfl⟩
  call w c h := ⟨Silent.call w c h, rfl⟩
  rx w x := ⟨Quiet.rx w x, rfl⟩
  socket w x := ⟨Quiet.socket w x, rfl⟩

end Relations

section Asked

structure Asked (calls : List Call) (answers : List Response) (w v : World) : Prop where
  trace : v.trace = w.trace ++ calls
  script : w.script = answers ++ v.script
  ctx : v.ctx = w.ctx

variable {calls calls' : List Call} {answers answers' : List Response} {u v w : World}

lemma Asked.trans (h : Asked calls answers u v) (h' : Asked calls' answers' v w) :
    Asked (calls ++ calls') (answers ++ answers') u w where
  trace := by rw [h'.trace, h.trace, List.append_assoc]
  script := by rw [h.script, h'.script, List.append_assoc]
  ctx := h'.ctx.trans h.ctx

lemma osDescriptor_asked : Triple (w = ·) osDescriptor (fun s v => ∃ r,
    (∃ fd : ℕ, r.descriptor = .ok fd ∧ s = fd ∧ Asked [.opened s] [r] w v) ∨
    (∃ e, r.descriptor = .error e ∧ s = -1 ∧ Asked [] [r] w v)) (fun _ => True) := by
  rintro _ rfl
  rw [osDescriptor, bind_apply, ask]
  cases hs : w.script with
  | nil => trivial
  | cons r rest =>
    dsimp only
    cases hr : r.descriptor with
    | ok fd => exact ⟨r, .inl ⟨fd, hr, rfl, rfl, hs, rfl⟩⟩
    | error e => exact ⟨r, .inr ⟨e, hr, rfl, (List.append_nil _).symm, hs, rfl⟩⟩

lemma osIgnored_asked (c : Call) : Triple (w = ·) (osIgnored c)
    (fun _ v => ∃ r, Asked [c] [r] w v) (fun _ => True) := by
  rintro _ rfl
  rw [osIgnored, record, bind_modify_apply, bind_apply]
  unfold ask
  cases hs : w.script with
  | nil => trivial
  | cons r rest =>
    dsimp only
    cases r.trouble with
    | none => exact ⟨r, rfl, hs, rfl⟩
    | some e => exact ⟨r, rfl, hs, rfl⟩

end Asked

end LibModbus
