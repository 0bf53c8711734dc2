import HexapodVerified.Companion.ProtocolClient

/-!
# The response to a request

The numbers of the commands come round again after 65535 of them. A call gets the response to its own command as long
as its number does not come round while it waits, nor while a response to an older command is on its way.
-/

namespace HexapodVerified.Companion

open Transition

abbrev LinkEvent := Event Link LinkAction

/-- The number of the `n`-th call. -/
def seqOf (n : Nat) : UInt16 := UInt16.ofNat (n % 65535 + 1)

/-- A call of `request` that has drawn its number and has not ended. -/
def Call.UnderWay (call : Call) : Prop := call.awaits = true ∧ call.progress ≠ .ended

/-- The response has been put into the queue of the call, which may have taken it out. -/
def Link.Has (s : Link) (c frame : Nat) : Prop :=
  ∃ call r, s.calls[c]? = some call ∧ (call.slot = some r ∨ call.result = some r) ∧ r.frame = frame

theorem seqOf_toNat (n : Nat) : (seqOf n).toNat = n % 65535 + 1 := UInt16.toNat_ofNat_of_lt' (by
  show n % 65535 + 1 < 65536
  omega)

theorem nextSeq_seqOf (n : Nat) : nextSeq (seqOf n) = seqOf (n + 1) := by
  have hadd : (seqOf n + 1).toNat = (n % 65535 + 1 + 1) % 65536 := by
    rw [UInt16.toNat_add, seqOf_toNat]
    rfl
  have hzero : seqOf n + 1 = 0 ↔ (seqOf n + 1).toNat = 0 := UInt16.toNat_inj.symm
  rw [← UInt16.toNat_inj, seqOf_toNat]
  unfold nextSeq
  split_ifs with hwrap
  · rw [hzero, hadd] at hwrap
    show 1 = _
    omega
  · rw [hzero, hadd] at hwrap
    rw [hadd]
    omega

/-- Fewer calls apart than there are numbers, the same number is the same call. -/
theorem eq_of_seqOf_eq {m n : Nat} (heq : seqOf m = seqOf n) (hm : m < n + 65535) (hn : n < m + 65535) : m = n := by
  rw [← UInt16.toNat_inj, seqOf_toNat, seqOf_toNat] at heq
  omega

section Steps

variable {s t : Link} {action : LinkAction} {c i : Nat} {call call' : Call} {r : Response}

theorem get_set {x : Call} (h : (s.calls.set c call')[i]? = some x) :
    i = c ∧ x = call' ∨ i ≠ c ∧ s.calls[i]? = some x := by
  rw [List.getElem?_set] at h
  by_cases heq : c = i
  · rw [if_pos heq] at h
    split_ifs at h
    exact .inl ⟨heq.symm, (Option.some.inj h).symm⟩
  · rw [if_neg heq] at h
    exact .inr ⟨fun h => heq h.symm, h⟩

structure CallStep (s : Link) (action : LinkAction) (c : Nat) (call call' : Call) : Prop where
  seq : call'.seq = call.seq
  underWay : call'.UnderWay → call.UnderWay
  slot : ∀ r, call'.slot = some r → call.slot = some r ∨ action = .deliver ∧ s.routing = some (c, r)
  result : ∀ r, call'.result = some r → call.result = some r ∨ call.slot = some r

theorem CallStep.refl : CallStep s action c call call where
  seq := rfl
  underWay h := h
  slot _ h := .inl h
  result _ h := .inl h

theorem callStep_set {x : Call} (hx : (s.calls.set c call')[i]? = some x) (hcall : s.calls[c]? = some call)
    (hstep : CallStep s action c call call') : ∃ y, s.calls[i]? = some y ∧ CallStep s action i y x := by
  rcases get_set hx with ⟨rfl, rfl⟩ | ⟨-, hkept⟩
  · exact ⟨call, hcall, hstep⟩
  · exact ⟨x, hkept, .refl⟩

theorem callStep_progress {progress : Progress} {written : Bool} (hopen : call.progress ≠ .ended) :
    CallStep s action c call { call with progress, written } where
  seq := rfl
  underWay h := ⟨h.1, hopen⟩
  slot _ h := .inl h
  result _ h := .inl h

theorem call_step (hstep : LinkStep s action t) {x : Call} (hx : t.calls[i]? = some x) :
    (i = s.calls.length ∧ ∃ awaits, action = .issue awaits ∧ x = { seq := nextSeq s.seq, awaits }) ∨
      ∃ y, s.calls[i]? = some y ∧ CallStep s action i y x := by
  cases hstep with
  | @issue awaits =>
    rcases lt_or_ge i s.calls.length with hlt | hge
    · rw [List.getElem?_append_left hlt] at hx
      exact .inr ⟨x, hx, .refl⟩
    · rw [List.getElem?_append_right hge, List.getElem?_singleton] at hx
      split_ifs at hx with hi
      exact .inl ⟨by omega, awaits, rfl, (Option.some.inj hx).symm⟩
  | register hcall hawaits hprogress =>
    refine .inr (callStep_set hx hcall (callStep_progress ?_))
    rw [hprogress]
    decide
  | write hcall hprogress =>
    refine .inr (callStep_set hx hcall (callStep_progress ?_))
    rw [hprogress]
    split_ifs <;> decide
  | fail hcall hprogress =>
    refine .inr (callStep_set hx hcall (callStep_progress ?_))
    rw [hprogress]
    split_ifs <;> decide
  | take hcall hprogress hslot =>
    refine .inr (callStep_set hx hcall ⟨rfl, fun h => ⟨h.1, ?_⟩, nofun, fun _ h => .inr ?_⟩)
    · rw [hprogress]
      decide
    · exact hslot.trans h
  | timeout hcall hprogress hslot =>
    refine .inr (callStep_set hx hcall (callStep_progress ?_))
    rw [hprogress]
    decide
  | leave hcall hprogress =>
    refine .inr (callStep_set hx hcall (callStep_progress ?_))
    rw [hprogress]
    decide
  | answer hcall hwritten => exact .inr ⟨x, hx, .refl⟩
  | lose hflight => exact .inr ⟨x, hx, .refl⟩
  | arrive hflight hidle => exact .inr ⟨x, hx, .refl⟩
  | @deliver c call r hrouting hcall =>
    refine .inr (callStep_set hx hcall ⟨rfl, fun h => h, fun r' h => ?_, fun _ h => .inl h⟩)
    rcases Option.or_eq_some_iff.mp h with hfull | ⟨-, hput⟩
    · exact .inl hfull
    · exact .inr ⟨rfl, hrouting.trans (by rw [Option.some.inj hput])⟩

theorem length_step (hstep : LinkStep s action t) : t.calls.length = s.calls.length ∨
    t.calls.length = s.calls.length + 1 ∧ ∃ awaits, action = .issue awaits := by
  cases hstep with
  | issue => exact .inr ⟨List.length_append, _, rfl⟩
  | answer | lose | arrive => exact .inl rfl
  | register | write | fail | take | timeout | leave | deliver => exact .inl (List.length_set ..)

theorem routing_step (hstep : LinkStep s action t) (hrouting : t.routing = some (c, r)) :
    s.routing = some (c, r) ∨ action = .arrive r ∧ r ∈ s.flight ∧ s.pending r.seq = some c := by
  cases hstep with
  | @arrive r' hflight hidle =>
    obtain ⟨c', hpending, heq⟩ := Option.map_eq_some_iff.mp hrouting
    obtain ⟨rfl, rfl⟩ := Prod.mk.inj heq
    exact .inr ⟨rfl, hflight, hpending⟩
  | deliver => cases hrouting
  | issue | register | write | fail | take | timeout | leave | answer | lose => exact .inl hrouting

theorem flight_step (hstep : LinkStep s action t) (hflight : r ∈ t.flight) :
    r ∈ s.flight ∨ ∃ c call, s.calls[c]? = some call ∧ r = ⟨call.seq, c, s.sent⟩ := by
  cases hstep with
  | answer hcall hwritten =>
    rcases Finset.mem_insert.mp hflight with hnew | hold
    · exact .inr ⟨_, _, hcall, hnew⟩
    · exact .inl hold
  | lose | arrive => exact .inl (Finset.mem_of_mem_erase hflight)
  | issue | register | write | fail | take | timeout | leave | deliver => exact .inl hflight

theorem kept_set {x : Call} (hx : s.calls[i]? = some x) (hcall : s.calls[c]? = some call)
    (hnew : call.UnderWay → call'.UnderWay ∧ call'.seq = call.seq) (hway : x.UnderWay) :
    ∃ y, (s.calls.set c call')[i]? = some y ∧ y.UnderWay ∧ y.seq = x.seq := by
  by_cases heq : c = i
  · subst heq
    obtain rfl := Option.some.inj (hcall.symm.trans hx)
    exact ⟨call', List.getElem?_set_self (List.getElem?_eq_some_iff.mp hcall).1, hnew hway⟩
  · exact ⟨x, (List.getElem?_set_ne heq).trans hx, hway, rfl⟩

theorem underWay_step (hstep : LinkStep s action t) {x : Call} (hx : s.calls[i]? = some x) (hway : x.UnderWay) :
    action = .leave i ∨ ∃ y, t.calls[i]? = some y ∧ y.UnderWay ∧ y.seq = x.seq := by
  cases hstep with
  | issue =>
    have hlt := (List.getElem?_eq_some_iff.mp hx).1
    exact .inr ⟨x, (List.getElem?_append_left hlt).trans hx, hway, rfl⟩
  | register hcall => exact .inr (kept_set hx hcall (fun h => ⟨⟨h.1, nofun⟩, rfl⟩) hway)
  | write hcall =>
    refine .inr (kept_set hx hcall (fun h => ⟨⟨h.1, ?_⟩, rfl⟩) hway)
    rw [h.1, if_pos rfl]
    exact nofun
  | fail hcall =>
    refine .inr (kept_set hx hcall (fun h => ⟨⟨h.1, ?_⟩, rfl⟩) hway)
    rw [h.1, if_pos rfl]
    exact nofun
  | take hcall => exact .inr (kept_set hx hcall (fun h => ⟨⟨h.1, nofun⟩, rfl⟩) hway)
  | timeout hcall => exact .inr (kept_set hx hcall (fun h => ⟨⟨h.1, nofun⟩, rfl⟩) hway)
  | @leave c call hcall =>
    by_cases heq : c = i
    · exact .inl (congrArg _ heq)
    · exact .inr ⟨x, (List.getElem?_set_ne heq).trans hx, hway, rfl⟩
  | answer | lose | arrive => exact .inr ⟨x, hx, hway, rfl⟩
  | deliver hrouting hcall => exact .inr (kept_set hx hcall (fun h => ⟨h, rfl⟩) hway)

end Steps

/-- What holds in every run: the numbers go round, and the table leads to calls that are under way. -/
structure LinkInv (s : Link) : Prop where
  next : nextSeq s.seq = seqOf s.calls.length
  number : ∀ c call, s.calls[c]? = some call → call.seq = seqOf c
  flight : ∀ r ∈ s.flight, r.answers < s.calls.length ∧ r.seq = seqOf r.answers
  pending : ∀ seq c, s.pending seq = some c → ∃ call, s.calls[c]? = some call ∧ call.UnderWay ∧ call.seq = seq

theorem linkInv_init : LinkInv {} where
  next := rfl
  number _ _ h := nomatch h
  flight _ h := absurd h (Finset.notMem_empty _)
  pending _ _ h := nomatch h

section Invariant

variable {s t : Link} {action : LinkAction}

theorem next_step (hstep : LinkStep s action t) (hinv : LinkInv s) : nextSeq t.seq = seqOf t.calls.length := by
  cases hstep with
  | issue =>
    rw [List.length_append, hinv.next, nextSeq_seqOf]
    rfl
  | answer | lose | arrive => exact hinv.next
  | register | write | fail | take | timeout | leave | deliver =>
    rw [List.length_set]
    exact hinv.next

theorem number_step (hstep : LinkStep s action t) (hinv : LinkInv s) {c : Nat} {call : Call}
    (hcall : t.calls[c]? = some call) : call.seq = seqOf c := by
  rcases call_step hstep hcall with ⟨rfl, awaits, -, rfl⟩ | ⟨old, hold, hkept⟩
  · exact hinv.next
  · rw [hkept.seq]
    exact hinv.number c old hold

theorem flightInv_step (hstep : LinkStep s action t) (hinv : LinkInv s) {r : Response} (hr : r ∈ t.flight) :
    r.answers < t.calls.length ∧ r.seq = seqOf r.answers := by
  have hlen : s.calls.length ≤ t.calls.length := by
    rcases length_step hstep with h | ⟨h, -⟩ <;> omega
  rcases flight_step hstep hr with hold | ⟨c, call, hcall, rfl⟩
  · obtain ⟨hlt, hseq⟩ := hinv.flight r hold
    exact ⟨by omega, hseq⟩
  · have hlt := (List.getElem?_eq_some_iff.mp hcall).1
    exact ⟨by dsimp only; omega, hinv.number c call hcall⟩

theorem pending_step (hstep : LinkStep s action t) (hinv : LinkInv s) {seq : UInt16} {c : Nat}
    (hpending : t.pending seq = some c) : ∃ call, t.calls[c]? = some call ∧ call.UnderWay ∧ call.seq = seq := by
  -- an old entry leads to a call that is still under way, unless it is the one that leaves
  have hold (hs : s.pending seq = some c) (hstays : action ≠ .leave c) :
      ∃ call, t.calls[c]? = some call ∧ call.UnderWay ∧ call.seq = seq := by
    obtain ⟨call, hcall, hway, rfl⟩ := hinv.pending seq c hs
    exact (underWay_step hstep hcall hway).resolve_left hstays
  cases hstep with
  | @register c' call hcall hawaits hprogress =>
    dsimp only at hpending
    by_cases hseq : seq = call.seq
    · rw [hseq, Function.update_self] at hpending
      obtain rfl := Option.some.inj hpending
      exact ⟨_, List.getElem?_set_self (List.getElem?_eq_some_iff.mp hcall).1, ⟨hawaits, nofun⟩, hseq.symm⟩
    · rw [Function.update_of_ne hseq] at hpending
      exact hold hpending nofun
  | @leave c' call hcall hprogress =>
    dsimp only at hpending
    by_cases hseq : seq = call.seq
    · rw [hseq, Function.update_self] at hpending
      exact absurd hpending nofun
    · rw [Function.update_of_ne hseq] at hpending
      refine hold hpending fun heq => ?_
      obtain rfl := LinkAction.leave.inj heq
      obtain ⟨call', hcall', -, hseq'⟩ := hinv.pending seq c' hpending
      rw [hcall] at hcall'
      exact hseq (hseq'.symm.trans (by rw [Option.some.inj hcall']))
  | issue | write | fail | take | timeout | answer | lose | arrive | deliver => exact hold hpending nofun

theorem linkInv_step (hstep : LinkStep s action t) (hinv : LinkInv s) : LinkInv t where
  next := next_step hstep hinv
  number _ _ h := number_step hstep hinv h
  flight _ h := flightInv_step hstep hinv h
  pending _ _ h := pending_step hstep hinv h

end Invariant

/-- A response arrives before 65535 further commands have been issued. -/
def ArrivesInTime (e : LinkEvent) : Prop :=
  ∀ r, e.label = .arrive r → e.pre.calls.length ≤ r.answers + 65535

/-- A command is issued before 65535 others were while a call of `request` is under way. -/
def EndsInTime (e : LinkEvent) : Prop :=
  ∀ awaits, e.label = .issue awaits → ∀ c call, e.pre.calls[c]? = some call → call.UnderWay →
    e.pre.calls.length < c + 65535

structure Matched (s : Link) : Prop where
  recent : ∀ c call, s.calls[c]? = some call → call.UnderWay → s.calls.length ≤ c + 65535
  routing : ∀ c r, s.routing = some (c, r) → r.answers = c
  held : ∀ (c : Nat) (call : Call) (r : Response), s.calls[c]? = some call →
    call.slot = some r ∨ call.result = some r → r.answers = c

theorem matched_init : Matched {} where
  recent _ _ h := nomatch h
  routing _ _ h := nomatch h
  held _ _ _ h := nomatch h

section Match

variable {s t : Link} {action : LinkAction}

theorem recent_step (hstep : LinkStep s action t) (hmatch : Matched s) (hends : EndsInTime ⟨s, action, t⟩) {c : Nat}
    {call : Call} (hcall : t.calls[c]? = some call) (hway : call.UnderWay) : t.calls.length ≤ c + 65535 := by
  rcases call_step hstep hcall with ⟨rfl, -⟩ | ⟨old, hold, hkept⟩
  · rcases length_step hstep with h | ⟨h, -⟩ <;> omega
  · have hold_way := hkept.underWay hway
    rcases length_step hstep with h | ⟨h, awaits, rfl⟩
    · rw [h]
      exact hmatch.recent c old hold hold_way
    · have hfew : s.calls.length < c + 65535 := hends awaits rfl c old hold hold_way
      omega

theorem matchedRouting_step (hstep : LinkStep s action t) (hinv : LinkInv s) (hmatch : Matched s)
    (harrives : ArrivesInTime ⟨s, action, t⟩) {c : Nat} {r : Response} (hrouting : t.routing = some (c, r)) :
    r.answers = c := by
  rcases routing_step hstep hrouting with hold | ⟨rfl, hflight, hpending⟩
  · exact hmatch.routing c r hold
  · obtain ⟨call, hcall, hway, hseq⟩ := hinv.pending r.seq c hpending
    obtain ⟨hanswers, hnumber⟩ := hinv.flight r hflight
    have hlate : s.calls.length ≤ r.answers + 65535 := harrives r rfl
    have hrecent := hmatch.recent c call hcall hway
    have hlt := (List.getElem?_eq_some_iff.mp hcall).1
    have hsame : seqOf r.answers = seqOf c := by rw [← hnumber, ← hseq, hinv.number c call hcall]
    exact eq_of_seqOf_eq hsame (by omega) (by omega)

theorem held_step (hstep : LinkStep s action t) (hmatch : Matched s) {c : Nat} {call : Call} {r : Response}
    (hcall : t.calls[c]? = some call) (hheld : call.slot = some r ∨ call.result = some r) : r.answers = c := by
  rcases call_step hstep hcall with ⟨-, awaits, -, rfl⟩ | ⟨old, hold, hkept⟩
  · exact absurd hheld (by simp)
  · rcases hheld with hslot | hresult
    · rcases hkept.slot r hslot with h | ⟨-, h⟩
      · exact hmatch.held c old r hold (.inl h)
      · exact hmatch.routing c r h
    · exact hmatch.held c old r hold (hkept.result r hresult).symm

theorem matched_step (hstep : LinkStep s action t) (hinv : LinkInv s) (hmatch : Matched s)
    (harrives : ArrivesInTime ⟨s, action, t⟩) (hends : EndsInTime ⟨s, action, t⟩) : Matched t where
  recent _ _ hcall hway := recent_step hstep hmatch hends hcall hway
  routing _ _ hrouting := matchedRouting_step hstep hinv hmatch harrives hrouting
  held _ _ _ hcall hheld := held_step hstep hmatch hcall hheld

end Match

/-! ## Each to one call -/

/-- A response is at one place: on its way, with the reader thread, or with a call. -/
structure OnePlace (s : Link) : Prop where
  flight : ∀ r ∈ s.flight, r.frame < s.sent ∧ ∀ r' ∈ s.flight, r'.frame = r.frame → r' = r
  routing : ∀ c r, s.routing = some (c, r) → r.frame < s.sent ∧ ∀ r' ∈ s.flight, r'.frame ≠ r.frame
  held : ∀ c frame, s.Has c frame → frame < s.sent ∧ (∀ r ∈ s.flight, r.frame ≠ frame) ∧
    ∀ c' r, s.routing = some (c', r) → r.frame ≠ frame
  one : ∀ c c' frame, s.Has c frame → s.Has c' frame → c = c'

theorem not_has_init (c frame : Nat) : ¬ Link.Has {} c frame := by
  rintro ⟨call, r, hcall, -⟩
  cases hcall

theorem onePlace_init : OnePlace {} where
  flight _ h := absurd h (Finset.notMem_empty _)
  routing _ _ h := nomatch h
  held c frame h := absurd h (not_has_init c frame)
  one c _ frame h := absurd h (not_has_init c frame)

section Places

variable {s t : Link} {action : LinkAction} {c frame : Nat}

/-- A call has what it had, or what the reader thread was about to put into its queue. -/
theorem has_step (hstep : LinkStep s action t) (hhas : t.Has c frame) :
    s.Has c frame ∨ action = .deliver ∧ ∃ r, s.routing = some (c, r) ∧ r.frame = frame := by
  obtain ⟨call, r, hcall, hheld, hframe⟩ := hhas
  rcases call_step hstep hcall with ⟨-, awaits, -, rfl⟩ | ⟨old, hold, hkept⟩
  · exact absurd hheld (by simp)
  · rcases hheld with hslot | hresult
    · rcases hkept.slot r hslot with h | ⟨hdeliver, h⟩
      · exact .inl ⟨old, r, hold, .inl h, hframe⟩
      · exact .inr ⟨hdeliver, r, h, hframe⟩
    · exact .inl ⟨old, r, hold, (hkept.result r hresult).symm, hframe⟩

theorem OnePlace.of_kept (hplace : OnePlace s) (hflight : t.flight ⊆ s.flight) (hsent : t.sent = s.sent)
    (hrouting : ∀ c r, t.routing = some (c, r) → s.routing = some (c, r))
    (hhas : ∀ c frame, t.Has c frame → s.Has c frame) : OnePlace t where
  flight r hr := by
    obtain ⟨hlt, hone⟩ := hplace.flight r (hflight hr)
    exact ⟨hsent ▸ hlt, fun r' hr' => hone r' (hflight hr')⟩
  routing c r hr := by
    obtain ⟨hlt, hother⟩ := hplace.routing c r (hrouting c r hr)
    exact ⟨hsent ▸ hlt, fun r' hr' => hother r' (hflight hr')⟩
  held c frame h := by
    obtain ⟨hlt, hother, hreader⟩ := hplace.held c frame (hhas c frame h)
    exact ⟨hsent ▸ hlt, fun r hr => hother r (hflight hr), fun c' r hr => hreader c' r (hrouting c' r hr)⟩
  one c c' frame h h' := hplace.one c c' frame (hhas c frame h) (hhas c' frame h')

theorem OnePlace.answered (hplace : OnePlace s) {r : Response} (hfresh : r.frame = s.sent) :
    OnePlace { s with flight := insert r s.flight, sent := s.sent + 1 } where
  flight r₁ h₁ := by
    rcases Finset.mem_insert.mp h₁ with rfl | hold₁
    · refine ⟨by dsimp only; omega, fun r₂ h₂ heq => ?_⟩
      rcases Finset.mem_insert.mp h₂ with rfl | hold₂
      · rfl
      · have hlt := (hplace.flight r₂ hold₂).1
        omega
    · obtain ⟨hlt, hone⟩ := hplace.flight r₁ hold₁
      refine ⟨Nat.lt_succ_of_lt hlt, fun r₂ h₂ heq => ?_⟩
      rcases Finset.mem_insert.mp h₂ with rfl | hold₂
      · omega
      · exact hone r₂ hold₂ heq
  routing c r₁ h := by
    obtain ⟨hlt, hother⟩ := hplace.routing c r₁ h
    refine ⟨Nat.lt_succ_of_lt hlt, fun r₂ h₂ => ?_⟩
    rcases Finset.mem_insert.mp h₂ with rfl | hold₂
    · omega
    · exact hother r₂ hold₂
  held c frame h := by
    obtain ⟨hlt, hother, hreader⟩ := hplace.held c frame h
    refine ⟨Nat.lt_succ_of_lt hlt, fun r₂ h₂ => ?_, hreader⟩
    rcases Finset.mem_insert.mp h₂ with rfl | hold₂
    · omega
    · exact hother r₂ hold₂
  one := hplace.one

theorem OnePlace.arrived (hplace : OnePlace s) {r : Response} (hflight : r ∈ s.flight) :
    OnePlace { s with flight := s.flight.erase r, routing := (s.pending r.seq).map fun c => (c, r) } := by
  have hreader {c : Nat} {r' : Response} (h : ((s.pending r.seq).map fun c => (c, r)) = some (c, r')) : r = r' := by
    obtain ⟨c', -, heq⟩ := Option.map_eq_some_iff.mp h
    exact (Prod.mk.inj heq).2
  obtain ⟨hlt, hone⟩ := hplace.flight r hflight
  refine ⟨fun r₁ h₁ => ?_, fun c r₁ h₁ => ?_, fun c frame h => ?_, hplace.one⟩
  · obtain ⟨hlt₁, hone₁⟩ := hplace.flight r₁ (Finset.mem_of_mem_erase h₁)
    exact ⟨hlt₁, fun r₂ h₂ => hone₁ r₂ (Finset.mem_of_mem_erase h₂)⟩
  · obtain rfl := hreader h₁
    exact ⟨hlt, fun r₂ h₂ heq => Finset.ne_of_mem_erase h₂ (hone r₂ (Finset.mem_of_mem_erase h₂) heq)⟩
  · obtain ⟨hlt', hother, -⟩ := hplace.held c frame h
    refine ⟨hlt', fun r₂ h₂ => hother r₂ (Finset.mem_of_mem_erase h₂), fun c' r₁ h₁ => ?_⟩
    rw [← hreader h₁]
    exact hother r hflight

theorem OnePlace.delivered (hplace : OnePlace s) {r : Response} (hrouting : s.routing = some (c, r))
    (hflight : t.flight = s.flight) (hsent : t.sent = s.sent) (hidle : t.routing = none)
    (hhas : ∀ c' frame, t.Has c' frame → s.Has c' frame ∨ c' = c ∧ r.frame = frame) : OnePlace t := by
  obtain ⟨hlt, hother⟩ := hplace.routing c r hrouting
  have hreader {c' : Nat} {r' : Response} : t.routing ≠ some (c', r') := by
    rw [hidle]
    exact nofun
  refine ⟨fun r₁ h₁ => ?_, fun _ _ h => absurd h hreader, fun c' frame h => ?_, fun c' c'' frame h h' => ?_⟩
  · rw [hflight] at h₁ ⊢
    rw [hsent]
    exact hplace.flight r₁ h₁
  · rw [hflight, hsent]
    refine ⟨?_, ?_, fun _ _ h => absurd h hreader⟩
    · rcases hhas c' frame h with hold | ⟨-, rfl⟩
      · exact (hplace.held c' frame hold).1
      · exact hlt
    · rcases hhas c' frame h with hold | ⟨-, rfl⟩
      · exact (hplace.held c' frame hold).2.1
      · exact hother
  · -- what a call has already is not with the reader thread
    rcases hhas c' frame h with hold | ⟨rfl, heq⟩ <;> rcases hhas c'' frame h' with hold' | ⟨rfl, heq'⟩
    · exact hplace.one c' c'' frame hold hold'
    · exact absurd heq' ((hplace.held c' frame hold).2.2 _ r hrouting)
    · exact absurd heq ((hplace.held c'' frame hold').2.2 _ r hrouting)
    · rfl

theorem onePlace_step (hstep : LinkStep s action t) (hplace : OnePlace s) : OnePlace t := by
  have hkept (hother : action ≠ .deliver) (c frame : Nat) (hhas : t.Has c frame) : s.Has c frame :=
    (has_step hstep hhas).resolve_right fun h => hother h.1
  cases hstep with
  | issue | register | write | fail | take | timeout | leave =>
    exact hplace.of_kept (Finset.Subset.refl _) rfl (fun _ _ h => h) (hkept nofun)
  | answer hcall hwritten => exact hplace.answered rfl
  | lose hflight => exact hplace.of_kept (Finset.erase_subset _ _) rfl (fun _ _ h => h) (hkept nofun)
  | arrive hflight hidle => exact hplace.arrived hflight
  | @deliver c call r hrouting hcall =>
    refine hplace.delivered hrouting rfl rfl rfl fun c' frame h => ?_
    rcases has_step (.deliver hrouting hcall) h with hold | ⟨-, r', h', hframe⟩
    · exact .inl hold
    · obtain ⟨rfl, rfl⟩ := Prod.mk.inj (Option.some.inj (hrouting.symm.trans h'))
      exact .inr ⟨rfl, hframe⟩

end Places

section Runs

variable {h : List LinkEvent} {s : Link}

theorem run_linkInv (run : Run LinkStep {} h s) : LinkInv s :=
  run.invariant LinkInv linkInv_init fun _ _ _ hinv hstep => linkInv_step hstep hinv

theorem run_onePlace (run : Run LinkStep {} h s) : OnePlace s :=
  run.invariant OnePlace onePlace_init fun _ _ _ hplace hstep => onePlace_step hstep hplace

theorem run_matched (run : Run LinkStep {} h s) (harrive : ∀ e ∈ h, ArrivesInTime e) (hend : ∀ e ∈ h, EndsInTime e) :
    Matched s := by
  induction run with
  | nil => exact matched_init
  | step run hstep ih =>
    obtain ⟨harrives, harrive'⟩ := List.forall_mem_cons.mp harrive
    obtain ⟨hends, hend'⟩ := List.forall_mem_cons.mp hend
    exact matched_step hstep (run_linkInv run) (ih harrive' hend') harrives hends

end Runs

/-- As long as responses arrive and calls end before their numbers have come round, what a call returns is a response
to its own command; and no response is put into the queues of two calls. -/
theorem responses_correlated (h : List LinkEvent) (s : Link) (run : Run LinkStep {} h s) :
    ((∀ e ∈ h, ArrivesInTime e) → (∀ e ∈ h, EndsInTime e) →
      ∀ (c : Nat) (call : Call) (r : Response), s.calls[c]? = some call → call.result = some r → r.answers = c) ∧
    ∀ c c' frame, s.Has c frame → s.Has c' frame → c = c' := by
  constructor
  · intro harrive hend c call r hcall hresult
    exact (run_matched run harrive hend).held c call r hcall (.inr hresult)
  · exact (run_onePlace run).one

/-- One request and its response. -/
theorem request_correlated : ∃ h s call r, Run LinkStep {} h s ∧ s.calls[0]? = some call ∧ call.result = some r ∧
    r.answers = 0 := by
  have hissue : Run LinkStep {} _ _ := Run.nil.step (@LinkStep.issue _ true)
  have hregister := hissue.step (@LinkStep.register _ 0 _ rfl rfl rfl)
  have hwrite := hregister.step (@LinkStep.write _ 0 _ rfl rfl)
  have hanswer := hwrite.step (@LinkStep.answer _ 0 _ rfl rfl)
  have harrive := hanswer.step (@LinkStep.arrive _ ⟨1, 0, 0⟩ (by decide) rfl)
  have hdeliver := harrive.step (@LinkStep.deliver _ 0 _ ⟨1, 0, 0⟩ rfl rfl)
  have htake := hdeliver.step (@LinkStep.take _ 0 _ ⟨1, 0, 0⟩ rfl rfl rfl)
  refine ⟨_, _, _, ⟨1, 0, 0⟩, htake, rfl, rfl, ?_⟩
  refine (responses_correlated _ _ htake).1 (fun e he => ?_) (fun e he => ?_) 0 _ ⟨1, 0, 0⟩ rfl rfl
  · intro r hlabel
    rcases he with _ | ⟨_, _ | ⟨_, _ | ⟨_, _ | ⟨_, _ | ⟨_, _ | ⟨_, _ | ⟨_, ⟨⟩⟩⟩⟩⟩⟩⟩⟩ <;> cases hlabel
    decide
  · intro awaits hlabel c call hcall
    rcases he with _ | ⟨_, _ | ⟨_, _ | ⟨_, _ | ⟨_, _ | ⟨_, _ | ⟨_, _ | ⟨_, ⟨⟩⟩⟩⟩⟩⟩⟩⟩ <;> cases hlabel
    exact absurd hcall nofun

/-- A call of `request` with the number one, whose command is written. -/
def waitingCall : Call := { seq := 1, awaits := true, progress := .waiting, written := true }

/-- A call of `send` that has written its command. -/
def sentCall (n : Nat) : Call := { seq := seqOf n, awaits := false, progress := .ended, written := true }

/-- The request waits, and `n` commands have been sent since. -/
def sentSince (n : Nat) : Link where
  seq := seqOf n
  calls := waitingCall :: (List.range n).map fun i => sentCall (i + 1)
  pending := Function.update (fun _ => none) 1 (some 0)

def issuedSince (n : Nat) : Link :=
  { sentSince n with
    seq := seqOf (n + 1)
    calls := (sentSince n).calls ++ [{ sentCall (n + 1) with progress := .numbered, written := false }] }

theorem sentSince_length (n : Nat) : (sentSince n).calls.length = n + 1 := by
  show ((List.range n).map fun i => sentCall (i + 1)).length + 1 = n + 1
  rw [List.length_map, List.length_range]

theorem sentSince_succ (n : Nat) : (sentSince (n + 1)).calls = (sentSince n).calls ++ [sentCall (n + 1)] := by
  show waitingCall :: (List.range (n + 1)).map _ = _
  rw [List.range_succ, List.map_append]
  rfl

theorem sentSince_last (n : Nat) : (sentSince (n + 1)).calls[n + 1]? = some (sentCall (n + 1)) := by
  have hend := @List.getElem?_concat_length _ (sentSince n).calls (sentCall (n + 1))
  rw [sentSince_length] at hend
  rw [sentSince_succ]
  exact hend

theorem issue_step (n : Nat) : LinkStep (sentSince n) (.issue false) (issuedSince n) := by
  have hnext : nextSeq (sentSince n).seq = seqOf (n + 1) := nextSeq_seqOf n
  have hstep := @LinkStep.issue (sentSince n) false
  rw [hnext] at hstep
  exact hstep

theorem write_step (n : Nat) : LinkStep (issuedSince n) (.write (n + 1)) (sentSince (n + 1)) := by
  have hget : (issuedSince n).calls[n + 1]? =
      some { sentCall (n + 1) with progress := .numbered, written := false } := by
    have hend := @List.getElem?_concat_length _ (sentSince n).calls
      { sentCall (n + 1) with progress := .numbered, written := false }
    rw [sentSince_length] at hend
    exact hend
  have hset : (issuedSince n).calls.set (n + 1) (sentCall (n + 1)) = (sentSince (n + 1)).calls := by
    show ((sentSince n).calls ++ [_]).set (n + 1) _ = _
    rw [List.set_append_right _ _ (sentSince_length n).le, sentSince_length, Nat.sub_self, sentSince_succ]
    rfl
  have hstep : LinkStep (issuedSince n) (.write (n + 1))
      { issuedSince n with calls := (issuedSince n).calls.set (n + 1) (sentCall (n + 1)) } := .write hget rfl
  rw [hset] at hstep
  exact hstep

theorem sentSince_run (n : Nat) : ∃ h, Run LinkStep {} h (sentSince n) ∧ ∀ e ∈ h, ∀ r, e.label ≠ .arrive r := by
  induction n with
  | zero =>
    have hissue : Run LinkStep {} _ _ := Run.nil.step (@LinkStep.issue _ true)
    have hregister := hissue.step (@LinkStep.register _ 0 _ rfl rfl rfl)
    have hwrite := hregister.step (@LinkStep.write _ 0 _ rfl rfl)
    refine ⟨_, hwrite, fun e he r hlabel => ?_⟩
    rcases he with _ | ⟨_, _ | ⟨_, _ | ⟨_, ⟨⟩⟩⟩⟩ <;> cases hlabel
  | succ n ih =>
    obtain ⟨h, hrun, hnone⟩ := ih
    refine ⟨_, (hrun.step (issue_step n)).step (write_step n), ?_⟩
    exact List.forall_mem_cons.mpr ⟨nofun, List.forall_mem_cons.mpr ⟨nofun, hnone⟩⟩

/-- A request whose response is lost returns the one to the command that gets its number again. -/
theorem stale_number_taken : ¬ ∀ (h : List LinkEvent) (s : Link), Run LinkStep {} h s →
    ((∀ e ∈ h, ArrivesInTime e) →
      ∀ (c : Nat) (call : Call) (r : Response), s.calls[c]? = some call → call.result = some r → r.answers = c) ∧
    ∀ c c' frame, s.Has c frame → s.Has c' frame → c = c' := by
  intro hclaim
  obtain ⟨h, hrun, hnone⟩ := sentSince_run 65535
  have hlast : (sentSince 65535).calls[65535]? = some (sentCall 65535) := sentSince_last 65534
  have hanswer := hrun.step (LinkStep.answer hlast rfl)
  have harrive := hanswer.step (@LinkStep.arrive _ ⟨1, 65535, 0⟩ (Finset.mem_insert_self _ _) rfl)
  have hdeliver := harrive.step (@LinkStep.deliver _ 0 waitingCall ⟨1, 65535, 0⟩ rfl rfl)
  have htake := hdeliver.step (@LinkStep.take _ 0 _ ⟨1, 65535, 0⟩ rfl rfl rfl)
  have hwrong := (hclaim _ _ htake).1 ?_ 0 _ ⟨1, 65535, 0⟩ rfl rfl
  · cases hwrong
  · refine List.forall_mem_cons.mpr ⟨nofun, List.forall_mem_cons.mpr ⟨nofun, List.forall_mem_cons.mpr ⟨?_, ?_⟩⟩⟩
    · intro r hlabel
      cases hlabel
      exact (sentSince_length 65535).le.trans (by decide)
    · exact List.forall_mem_cons.mpr ⟨nofun, fun e he r hlabel => absurd hlabel (hnone e he r)⟩

end HexapodVerified.Companion
