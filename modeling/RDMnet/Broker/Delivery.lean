import RDMnet.Broker.Output

/-!
# What a client of the broker receives

Both ends of a connection: the bytes that the socket takes from `BrokerClient::Send` are read by the message
buffer of the client, in whatever chunks the network delivers them.
-/

namespace RDMnet

open Outbox List

namespace BrokerClient

variable {c c' : BrokerClient}

/-- The bytes of the messages with these numbers. -/
theorem map_snd_flatMap_tagged (pal : EtcPal) (queued : List (Uuid × Outgoing)) (ids : List Nat) :
    (ids.flatMap (tagged (queued.map (packed pal)))).map Prod.snd = packAll pal (ids.filterMap (queued[·]?)) := by
  induction ids with
  | nil => rfl
  | cons i ids ih =>
    rw [flatMap_cons, map_append, ih, filterMap_cons, tagged, getElem?_map]
    cases queued[i]? with
    | none => rfl
    | some x => simp [packAll, packed, Function.comp_def]

/-- The numbers of complete messages can be told from the wire. -/
theorem flatMap_tagged_inj {q : List Bytes} (hq : ∀ i < q.length, tagged q i ≠ []) {ids ids' : List Nat}
    (h : ∀ i ∈ ids, i < q.length) (h' : ∀ i ∈ ids', i < q.length)
    (heq : ids.flatMap (tagged q) = ids'.flatMap (tagged q)) : ids = ids' := by
  induction ids generalizing ids' with
  | nil =>
    cases ids' with
    | nil => rfl
    | cons i' ids' => exact absurd (append_eq_nil_iff.mp heq.symm).1 (hq i' (h' i' mem_cons_self))
  | cons i ids ih =>
    cases ids' with
    | nil => exact absurd (append_eq_nil_iff.mp heq).1 (hq i (h i mem_cons_self))
    | cons i' ids' =>
      rw [flatMap_cons, flatMap_cons] at heq
      -- the first byte has the number of its message
      have hhead : ∀ j < q.length, ∀ rest, ((tagged q j ++ rest).head?.map Prod.fst) = some j := by
        intro j hj rest
        obtain ⟨x, xs, hx⟩ := exists_cons_of_ne_nil (hq j hj)
        have hmem : x ∈ tagged q j := hx ▸ mem_cons_self
        obtain ⟨_, -, rfl⟩ := mem_map.mp hmem
        rw [hx, cons_append, head?_cons, Option.map_some]
      have hi := hhead i (h i mem_cons_self) (ids.flatMap (tagged q))
      rw [heq, hhead i' (h' i' mem_cons_self)] at hi
      cases hi
      rw [ih (fun j hj => h j (mem_cons_of_mem _ hj)) (fun j hj => h' j (mem_cons_of_mem _ hj))
        (append_cancel_left heq)]

/-- **What a client is sent arrives**, whatever is pushed, if no send and no mark comes between a message that the
socket has taken in part and the rest of it (`KeepsOrder`): between two messages, the wire has the messages with
some numbers, and the client receives just these, one after another. -/
theorem sent_messages_arrive (pal : EtcPal) (hpal : pal.Lawful) (hpk : pal.Packs) (hc : c.Created)
    (hr : Runs (step pal) (KeepsOrder pal) c c') (hopen : c'.socket.isSome = true) (hwhole : c'.begunQueues = [])
    (hpacked : ∀ x ∈ c'.queued, Packed pal x) (msg : RdmnetMessage) (cs : List Bytes)
    (hcs : cs.flatten = c'.wire.map Prod.snd) (hfit : ChunksFit pal msg cs) :
    ∃ (ids : List Nat) (os : List RdmnetMessage), (∀ i ∈ ids, i < c'.queued.length) ∧
      c'.wire = ids.flatMap (tagged (c'.queued.map (packed pal))) ∧ (∀ os', Receives pal msg cs os' ↔ os' = os) ∧
      Forall₂ (fun x o => x.2.Arrives x.1 o) (ids.filterMap (c'.queued[·]?)) os := by
  have hsound : Sound pal c' := hr.keeps (fun _ _ _ hok h hs => h.step hok hs) hc.sound
  obtain ⟨ids, hids, hwire⟩ := (hsound.orderly hopen).fresh (not_begun hwhole)
  have hxs : ∀ x ∈ ids.filterMap (c'.queued[·]?), Packed pal x := by
    intro x hx
    obtain ⟨i, -, hi⟩ := mem_filterMap.mp hx
    exact hpacked x (mem_of_getElem? hi)
  obtain ⟨m', os, lg, hd, hlg, hall⟩ := drains_packed hpal hpk _ msg hxs
  refine ⟨ids, _, fun i hi => ?_, hwire, hd.receives hpal hlg ?_ hfit, hall⟩
  · have hlt : i < (c'.queued.map (packed pal)).length := hids i hi
    rwa [length_map] at hlt
  · rw [hcs, ← map_snd_flatMap_tagged]
    exact congrArg (map Prod.snd) hwire

def sampleSends : List Action :=
  [.push default sampleFarewell, .send default 0 (.ok 20), .push default { sampleFarewell with disconnect := 1 },
    .send default 0 (.ok 100), .send default 0 (.ok 100)]

def sampleSent : BrokerClient :=
  played (step .reference) (KeepsOrder .reference) sampleSends sampleController (by decide +kernel)

/-- Two Disconnect messages, the first of which the socket takes in two parts. -/
theorem sent_messages_arrive_resumed : ∃ o o', Receives .reference default [sampleSent.wire.map Prod.snd] [o, o'] ∧
    o.broker.disconnect = 0 ∧ o'.broker.disconnect = 1 := by
  have hqueued : sampleSent.queued = [(default, .disconnect brokerDisconnectFullMsgSize 0),
      (default, .disconnect brokerDisconnectFullMsgSize 1)] := by rfl
  have hpacked : ∀ x ∈ sampleSent.queued, Packed .reference x := by
    rw [hqueued]
    simp only [forall_mem_cons, not_mem_nil, false_implies, implies_true, and_true]
    exact ⟨⟨trivial, by decide +kernel, by decide +kernel⟩, trivial, by decide +kernel, by decide +kernel⟩
  have hr : Runs (step .reference) (KeepsOrder .reference) sampleController sampleSent := .played sampleSends _
  obtain ⟨ids, os, hids, hwire, hrec, hall⟩ := sent_messages_arrive .reference EtcPal.reference_lawful
    EtcPal.reference_packs (.inr ⟨.controller, 0, 0, default, 0, new 0 0 0 0, rfl⟩) hr (by decide +kernel)
    (by decide +kernel) hpacked default [sampleSent.wire.map Prod.snd] (append_nil _)
    (chunksFit_of_short (by decide +kernel))
  have hsent : sampleSent.wire = [0, 1].flatMap (tagged (sampleSent.queued.map (packed .reference))) := by
    decide +kernel
  obtain rfl := flatMap_tagged_inj (by decide +kernel) (fun i hi => by rw [length_map]; exact hids i hi)
    (by decide +kernel) (hwire.symm.trans hsent)
  rw [hqueued] at hall
  cases hall with
  | cons ho hrest =>
    cases hrest with
    | cons ho' hnil =>
      cases hnil
      exact ⟨_, _, (hrec _).mpr rfl, ho.2, ho'.2⟩

end BrokerClient

end RDMnet
