import RDMnet.Broker.Objects

/-!
# The limits of a broker

A Connect request is admitted only if there is room for one more client of its class.  That this keeps the
controllers and the devices within the limits of the settings is a matter of everything else that a broker does:
nothing but an admission adds to the maps that are counted.
-/

namespace RDMnet

namespace Broker

variable {env : BrokerEnv} {b b' : Broker} {h : Handle} {kind : ClientKind}

/-- No class has more clients than it may have. -/
def Limited (env : BrokerEnv) (b : Broker) : Prop :=
  ∀ kind, maxClients env kind = 0 ∨ (b.pointers kind).size ≤ maxClients env kind

theorem Limited.of_le (hl : Limited env b) (hc : b'.controllers.size ≤ b.controllers.size)
    (hd : b'.devices.size ≤ b.devices.size) : Limited env b' := by
  intro kind
  refine (hl kind).imp_right (le_trans ?_)
  unfold pointers
  split
  · exact hc
  · exact hd

theorem Limited.of_registry (hl : Limited env b) (hc : b'.registry.controllers = b.registry.controllers)
    (hd : b'.registry.devices = b.registry.devices) : Limited env b' :=
  hl.of_le (Table.size_eq_of_lookup (congrFun hc)).le (Table.size_eq_of_lookup (congrFun hd)).le

theorem Limited.mark {action : ClientDestroyAction} (ha : action ≠ .sendConnectReply kRdmnetConnectOk)
    (hl : Limited env b) : Limited env (b.markClientForDestruction env h action) := by
  cases hc : b.clients.lookup h with
  | none => rwa [mark_none hc]
  | some c => exact hl.of_registry (by rw [registry_mark hc ha]; rfl) (by rw [registry_mark hc ha]; rfl)

theorem Limited.enrol (hl : Limited env b) (hroom : HasRoomFor env b kind) (entry : RptClientEntry) (now : Nat)
    (prev : BrokerClient) : Limited env (b.enrol env kind h entry now prev) := by
  intro kind'
  have hnew : ((b.enrol env kind h entry now prev).pointers kind').size ≤
      (b.pointers kind').size + if kind' = .controller ↔ kind = .controller then 1 else 0 := by
    have hc : (b.enrol env kind h entry now prev).controllers =
        if kind = .controller then b.controllers.insertNew h b.nextObject else b.controllers := rfl
    have hd : (b.enrol env kind h entry now prev).devices =
        if kind = .controller then b.devices else b.devices.insertNew h b.nextObject := rfl
    unfold pointers
    rw [hc, hd]
    by_cases hk' : kind' = .controller <;> by_cases hk : kind = .controller <;>
      simp [hk, hk', Table.size_insertNew_le]
  by_cases hsame : kind' = .controller ↔ kind = .controller
  · -- the class of the new client, which had room for it
    rw [if_pos hsame] at hnew
    have hroom' : HasRoomFor env b kind' := by
      unfold HasRoomFor maxClients pointers at *
      simpa only [hsame] using hroom
    exact hroom'.imp_right hnew.trans
  · rw [if_neg hsame] at hnew
    exact (hl kind').imp_right hnew.trans

theorem Limited.connect (hl : Limited env b) (cmsg : BrokerClientConnectMsg) (now : Nat) :
    Limited env (b.processConnectRequest env h cmsg now) := by
  have hd := processConnectRequest_decides env h cmsg now b
  generalize b.processConnectRequest env h cmsg now = b' at hd ⊢
  cases hd with
  | refused status hs hnot => exact hl.mark fun hact => hs (by cases hact; rfl)
  | full kind m uid hp ht htaken => exact Limited.mark (by decide) hl
  | nowhere | unknown => exact hl
  | admitted kind m uid prev hp ht htaken hkind hroom hprev =>
    exact Limited.enrol (b := { b with uids := m }) hl hroom _ now prev

theorem limited_of_runs (hr : Runs (step env) anyStep (start env) b) : Limited env b := by
  refine hr.keeps (I := Limited env) (fun e b b' _ hl hstep => ?_) fun kind => .inr ?_
  · cases step_happens hstep with
    | opens h sock now hnew hnull =>
      have hopens : _ ∨ b.handleNewConnection env h sock now = b := registry_handleNewConnection h sock now
      obtain heq | heq := hopens
      · exact hl.of_registry (by rw [heq]; rfl) (by rw [heq]; rfl)
      · rwa [heq]
    | connects _ h cmsg now he => exact hl.connect cmsg now
    | fetches => exact hl.of_registry (by rw [registry_sendClientList]) (by rw [registry_sendClientList])
    | closes _ h action he hact =>
      refine hl.mark ?_
      rintro rfl
      obtain hact | hact := hact <;> cases hact
    | routes => exact hl.of_registry (by rw [registry_processRPTMessage]) (by rw [registry_processRPTMessage])
    | serves => exact hl.of_registry (by rw [registry_serviceClient]) (by rw [registry_serviceClient])
    | sweeps => exact hl.of_le (Table.size_eraseAll_le ..) (Table.size_eraseAll_le ..)
    | ignores => exact hl
  · unfold pointers start
    cases kind <;> exact Nat.zero_le _

/-- **The limits are kept.**  Whatever events come, a broker never has more controllers or devices in the maps
that it routes by than its settings allow. -/
theorem clients_limited (env : BrokerEnv) (hr : Runs (step env) anyStep (start env) b) :
    (env.settings.limits.controllers = 0 ∨ b.controllers.size ≤ env.settings.limits.controllers) ∧
    (env.settings.limits.devices = 0 ∨ b.devices.size ≤ env.settings.limits.devices) :=
  ⟨limited_of_runs hr .controller, limited_of_runs hr .device⟩

def sampleLimited : BrokerEnv :=
  { sampleEnv with settings := { sampleEnv.settings with limits := { sampleEnv.settings.limits with controllers := 1 } } }

/-- The second of two controllers is refused. -/
theorem clients_limited_one : ∃ b, Runs (step sampleLimited) anyStep (start sampleLimited) b ∧
    b.clients.size = 2 ∧ b.controllers.size ≤ 1 := by
  obtain ⟨b, hr, hsize⟩ := Runs.exists_of_play (s := start sampleLimited) (step sampleLimited) anyStep
    (fun b => b.clients.size) 2 [.newConnection 0 0 0, .newConnection 1 1 0,
      .messageReceived 0 (connectRequest (controllerEntry 1)) 0,
      .messageReceived 1 (connectRequest (controllerEntry 2)) 0] (by decide +kernel)
  exact ⟨b, hr, hsize, (clients_limited sampleLimited hr).1.resolve_left (by decide)⟩

end Broker

end RDMnet
