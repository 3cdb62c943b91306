import LibModbus.Client.Requests
import LibModbus.Client.Uses

/-! The messages that are handed to `send()`. -/

namespace LibModbus

open Library Library.Prog

section Sends

structure Sends (P : List UInt8 → Prop) (w w' : World) : Prop where
  backend : w'.ctx.backend = w.ctx.backend
  slave : w'.ctx.slave = w.ctx.slave
  sent : ∃ calls, w'.trace = w.trace ++ calls ∧ ∀ fd msg, .send fd msg ∈ calls → P msg

variable {P : List UInt8 → Prop}

lemma Sends.of_trace {w w' : World} (hctx : w'.ctx.backend = w.ctx.backend ∧ w'.ctx.slave = w.ctx.slave)
    (ht : w'.trace = w.trace) : Sends P w w' :=
  ⟨hctx.1, hctx.2, [], by rw [ht, List.append_nil], fun _ _ h => absurd h List.not_mem_nil⟩

lemma Sends.of_call {w w' : World} {c : Call}
    (hctx : w'.ctx.backend = w.ctx.backend ∧ w'.ctx.slave = w.ctx.slave)
    (ht : w'.trace = w.trace ++ [c]) (hc : ∀ fd msg, c = .send fd msg → P msg) : Sends P w w' := by
  refine ⟨hctx.1, hctx.2, [c], ht, fun fd msg h => hc fd msg ?_⟩
  exact (List.mem_singleton.mp h).symm

instance : Quiet (Sends P) where
  refl _ := .of_trace ⟨rfl, rfl⟩ rfl
  trans u v w := by
    rintro ⟨hb, hs, cs, ht, hc⟩ ⟨hb', hs', ds, ht', hd⟩
    refine ⟨hb'.trans hb, hs'.trans hs, cs ++ ds, by rw [ht', ht, List.append_assoc], fun fd msg h => ?_⟩
    rcases List.mem_append.mp h with h | h
    · exact hc fd msg h
    · exact hd fd msg h
  script _ _ _ := .of_trace ⟨rfl, rfl⟩ rfl
  errno _ _ := .of_trace ⟨rfl, rfl⟩ rfl
  call _ c h := by
    refine .of_call ⟨rfl, rfl⟩ rfl fun fd msg hc => ?_
    rw [hc] at h
    exact absurd h (by simp [Call.carriesBytes])
  rx _ _ := .of_trace ⟨rfl, rfl⟩ rfl
  socket _ _ := .of_trace ⟨rfl, rfl⟩ rfl

lemma leaves_sends {w₀ : World} {call : ClientCall} (h : call.operation.tooMany = false →
    ∀ ctx : Modbus, ctx.backend = w₀.ctx.backend → ctx.slave = w₀.ctx.slave → P (call.request ctx)) :
    Leaves (Sends P w₀) call where
  basis w hw := by
    refine IsTrans.trans _ w _ hw (.of_trace ⟨nextRequest_backend w.ctx, nextRequest_slave w.ctx⟩ rfl)
  sends hfew u v w hu hv hw := by
    refine IsTrans.trans _ w _ hw (.of_call ⟨rfl, rfl⟩ rfl ?_)
    rintro fd msg ⟨⟩
    have hreq := h hfew u.ctx hu.backend hu.slave
    rw [ClientCall.request, hu.backend] at hreq
    rw [hv.backend]
    exact hreq
  sent w tx hw := IsTrans.trans _ w _ hw (.of_trace ⟨rfl, rfl⟩ rfl)
  stored w o n hw := IsTrans.trans _ w _ hw (.of_call ⟨rfl, rfl⟩ rfl nofun)

end Sends

section Unanswered

variable {w : World}

lemma sendMsg_unanswered (msg : List UInt8) (hs : w.script = []) : sendMsg msg w =
    .blocked { w with trace := w.trace ++ [.send w.ctx.s (sendMsgPre w.ctx.backend msg)] } := by
  have hstep (msg : List UInt8) : sendMsgStep msg () w =
      .blocked { w with trace := w.trace ++ [.send w.ctx.s msg] } := by
    simp only [sendMsgStep, backendSend, bind_assoc_apply, bind_getCtx]
    apply bind_blocked
    simp only [osSend, record, ask, bind_apply, modify_apply, hs]
  have hloop (msg : List UInt8) : loop (sendMsgStep msg) () w = _ := iterate_blocked _ (hstep msg)
  rw [sendMsg, bind_getCtx]
  exact bind_blocked (hloop _) _

end Unanswered

end LibModbus
