import Mathlib.Data.List.Nodup
import Switchboard.Proofs.Client.Dispatches
import Switchboard.Proofs.Connection.Binding

/-!
# The listeners of the connection store

The connection store has one listener on each of its channels while it is bound, and none else. It knows them by their
subscriptions, and nobody else does, so whatever others do with the hubs leaves them alone (`Orderly`), and what the
store does with them leaves all other listeners alone (`SameOthers`). That is kept by every piece of work
(`Owns.perform`) and so at every moment of a run (`Owns.run`), also if the store is bound and unbound by listeners in
the middle of a dispatch.
-/

namespace Switchboard

namespace Hub

variable {Handler : Type} {h : Hub Handler}

/-- The listeners have numbers in order, all given out. -/
structure Ordered (h : Hub Handler) : Prop where
  ordered : h.listeners.Pairwise fun l l' => l.subscription.id < l'.subscription.id
  below : ∀ l ∈ h.listeners, l.subscription.id < h.registered

theorem ordered_made (history : List (Change Handler)) : (made history).Ordered where
  ordered := (holds_made history).ordered
  below l hl := by
    rw [registered_made]
    exact (mem_listeners_made.mp hl).lt

theorem Ordered.listen (ordered : h.Ordered) (channel : String) (handler : Handler) :
    (h.listen channel handler).Ordered where
  ordered := by
    refine List.pairwise_append.mpr ⟨ordered.ordered, List.pairwise_singleton _ _, fun l old new mem => ?_⟩
    rw [List.mem_singleton.mp mem]
    exact ordered.below l old
  below := id_lt_of_mem_listen ordered.below channel handler

theorem Ordered.unsubscribe (ordered : h.Ordered) (s : Subscription) : (h.unsubscribe s).Ordered where
  ordered := ordered.ordered.sublist List.filter_sublist
  below l hl := ordered.below l (List.mem_filter.mp hl).1

/-- No two listeners have one subscription. -/
theorem Ordered.eq_of_subscription (ordered : h.Ordered) {l l' : Listener Handler} (hl : l ∈ h.listeners)
    (hl' : l' ∈ h.listeners) (same : l.subscription = l'.subscription) : l = l' := by
  have apart : (h.listeners.map Listener.subscription).Nodup :=
    List.pairwise_map.mpr (ordered.ordered.imp fun lt same => Nat.ne_of_lt lt (congrArg Subscription.id same))
  exact List.inj_on_of_nodup_map apart hl hl' same

/-- To drop several subscriptions is to remove all their listeners. -/
theorem changed_drops (h : Hub Handler) (subscriptions : List Subscription) :
    h.changed (subscriptions.map .drop) =
      { h with listeners := h.listeners.filter fun l => decide (l.subscription ∉ subscriptions) } := by
  induction subscriptions generalizing h with
  | nil => simp [changed]
  | cons s rest ih =>
    have both : (fun l : Listener Handler => decide (l.subscription ∉ rest) && l.subscription != s) =
        fun l => decide (l.subscription ∉ s :: rest) := by
      funext l
      by_cases own : l.subscription = s <;> simp [own]
    show (h.unsubscribe s).changed (rest.map .drop) = _
    rw [ih, unsubscribe, List.filter_filter, both]

end Hub

namespace Client

/-! ## Own listeners and others -/

/-- Whether a listener is one of the connection store. -/
def Handler.isOwn : Handler → Bool
  | .status | .progress | .features => true
  | .changes | .script .. => false

/-- The listeners of the connection store on a hub. -/
def ownListeners (h : Hub Handler) : List (Listener Handler) := h.listeners.filter fun l => l.handler.isOwn

/-- All other listeners on a hub. -/
def otherListeners (h : Hub Handler) : List (Listener Handler) := h.listeners.filter fun l => !l.handler.isOwn

/-- Two clients have the same listeners, in the same order, but for those of the connection store. -/
def SameOthers (c d : Client) : Prop := ∀ i, otherListeners (d.hub i) = otherListeners (c.hub i)

theorem SameOthers.trans {b c d : Client} (h : b.SameOthers c) (h' : c.SameOthers d) : b.SameOthers d :=
  fun i => (h' i).trans (h i)

section

variable {h : Hub Handler} {handler : Handler}

theorem ownListeners_listen_own (own : handler.isOwn = true) (channel : String) :
    ownListeners (h.listen channel handler) = ownListeners h ++ [⟨h.ticket channel, handler⟩] ∧
      otherListeners (h.listen channel handler) = otherListeners h := by
  simp [ownListeners, otherListeners, Hub.listen, List.filter_append, own]

theorem ownListeners_listen_other (other : handler.isOwn = false) (channel : String) :
    ownListeners (h.listen channel handler) = ownListeners h := by
  simp [ownListeners, Hub.listen, List.filter_append, other]

theorem ownListeners_unsubscribe (h : Hub Handler) (s : Subscription) :
    ownListeners (h.unsubscribe s) = (ownListeners h).filter fun l => l.subscription != s := by
  simp only [ownListeners, Hub.unsubscribe, List.filter_filter, Bool.and_comm]

end

/-! ## Hubs by number -/

section

variable {c : Client}

theorem hub_changeHub_self {i : Nat} (h : i < c.hubs.length) (change : Hub Handler → Hub Handler) :
    (c.changeHub i change).hub i = change (c.hub i) := by
  simp [hub, changeHub, List.getD_eq_getElem?_getD, List.getElem?_eq_getElem h]

theorem hub_changeHub_of_ne {i j : Nat} (h : j ≠ i) (change : Hub Handler → Hub Handler) :
    (c.changeHub i change).hub j = c.hub j := by
  simp [hub, changeHub, List.getD_eq_getElem?_getD, Ne.symm h]

/-- A hub that is not there has no listeners. -/
theorem hub_changeHub_cases (i j : Nat) (change : Hub Handler → Hub Handler) :
    (c.changeHub i change).hub j = c.hub j ∨ (c.changeHub i change).hub j = change (c.hub j) := by
  by_cases own : j = i
  · subst own
    by_cases exist : j < c.hubs.length
    · exact .inr (hub_changeHub_self exist change)
    · refine .inl ?_
      have missing : c.hubs[j]? = none := List.getElem?_eq_none (Nat.le_of_not_lt exist)
      simp [hub, changeHub, List.getD_eq_getElem?_getD, missing]
  · exact .inl (hub_changeHub_of_ne own change)

/-- Where changes are of the first hub, the others take no part. -/
theorem hub_unsubscribeConnection (h : 0 < c.hubs.length) (i : Nat) : c.unsubscribeConnection.hub i =
    if i = 0 then (c.hub 0).changed (c.subscriptions.map .drop) else c.hub i := by
  have first : ∀ subscriptions : List Subscription, (dropAll subscriptions).of 0 = subscriptions.map .drop := by
    intro subscriptions
    induction subscriptions with
    | nil => rfl
    | cons s rest ih => exact congrArg (Hub.Change.drop s :: ·) ih
  have others : ∀ subscriptions : List Subscription, i ≠ 0 → (dropAll subscriptions).of i = [] := by
    intro subscriptions other
    refine List.filterMap_eq_nil_iff.mpr fun change mem => ?_
    obtain ⟨s, -, rfl⟩ := List.mem_map.mp mem
    exact if_neg (Ne.symm other)
  rw [unsubscribeConnection_eq]
  show (changeHubs c.hubs _).getD i {} = _
  split
  next zero =>
    rw [zero, getD_changeHubs h, first]
    rfl
  next other =>
    by_cases exist : i < c.hubs.length
    · rw [getD_changeHubs exist, others _ other]
      rfl
    · have missing : ∀ hubs : List (Hub Handler), hubs.length = c.hubs.length → hubs.getD i {} = {} :=
        fun hubs length => by
          rw [List.getD_eq_getElem?_getD, List.getElem?_eq_none (length ▸ Nat.le_of_not_lt exist)]
          rfl
      rw [missing _ (length_changeHubs _ _), hub, missing _ rfl]

end

/-! ## What the store owns -/

/-- The listeners of the connection store are these, all on the first hub. It has their subscriptions, and no others
have. -/
structure Listens (channels : List (String × Handler)) (c : Client) : Prop where
  first : 0 < c.hubs.length
  ordered : (c.hub 0).Ordered
  own : (ownListeners (c.hub 0)).map (fun l => (l.subscription.channel, l.handler)) = channels
  subscriptions : (ownListeners (c.hub 0)).map Listener.subscription = c.subscriptions
  elsewhere : ∀ i, i ≠ 0 → ownListeners (c.hub i) = []
  named : ∀ name p, c.listeners.get? name = some p → p.hub = 0 →
    p.subscription.id < (c.hub 0).registered ∧ p.subscription ∉ c.subscriptions

namespace Listens

variable {c d : Client} {channels : List (String × Handler)}

/-- It is a matter of hubs, subscriptions and names. -/
theorem of_same (h : Listens channels c) (hubs : d.hubs = c.hubs) (subscriptions : d.subscriptions = c.subscriptions)
    (listeners : d.listeners = c.listeners) : Listens channels d := by
  have hub : ∀ i, d.hub i = c.hub i := fun i => by rw [Client.hub, hubs]; rfl
  refine ⟨by rw [hubs]; exact h.first, ?_, ?_, ?_, fun i other => ?_, fun name p => ?_⟩
  · rw [hub]
    exact h.ordered
  · rw [hub]
    exact h.own
  · rw [hub, subscriptions]
    exact h.subscriptions
  · rw [hub]
    exact h.elsewhere i other
  · rw [listeners, hub, subscriptions]
    exact h.named name p

theorem mem_subscriptions (h : Listens channels c) {l : Listener Handler} (mem : l ∈ (c.hub 0).listeners)
    (own : l.handler.isOwn = true) : l.subscription ∈ c.subscriptions := by
  rw [← h.subscriptions]
  exact List.mem_map_of_mem (List.mem_filter.mpr ⟨mem, own⟩)

theorem id_lt (h : Listens channels c) {s : Subscription} (mem : s ∈ c.subscriptions) :
    s.id < (c.hub 0).registered := by
  rw [← h.subscriptions] at mem
  obtain ⟨l, hl, rfl⟩ := List.mem_map.mp mem
  exact h.ordered.below l (List.mem_filter.mp hl).1

/-- Only own listeners have the subscriptions of the store. -/
theorem not_mem_subscriptions (h : Listens channels c) {l : Listener Handler} (mem : l ∈ (c.hub 0).listeners)
    (other : l.handler.isOwn = false) : l.subscription ∉ c.subscriptions := by
  intro own
  rw [← h.subscriptions] at own
  obtain ⟨l', hl', same⟩ := List.mem_map.mp own
  obtain ⟨mem', own'⟩ := List.mem_filter.mp hl'
  rw [h.ordered.eq_of_subscription mem' mem same, other] at own'
  cases own'

/-- Someone else registers a listener. -/
theorem register (h : Listens channels c) (i : Nat) (channel : String) {handler : Handler}
    (other : handler.isOwn = false) : Listens channels (c.register i channel handler).1 := by
  have same : ∀ j, ownListeners ((c.register i channel handler).1.hub j) = ownListeners (c.hub j) := fun j => by
    rcases c.hub_changeHub_cases i j fun h => h.listen channel handler with e | e
    · exact congrArg ownListeners e
    · exact (congrArg ownListeners e).trans (ownListeners_listen_other other channel)
  refine ⟨by rw [Client.register, changeHub, List.length_modify]; exact h.first, ?_, ?_, ?_, fun j apart => ?_,
    fun name p found first => ?_⟩
  · rcases c.hub_changeHub_cases i 0 fun h => h.listen channel handler with e | e
    · exact e ▸ h.ordered
    · exact e ▸ h.ordered.listen channel handler
  · rw [same]
    exact h.own
  · rw [same]
    exact h.subscriptions
  · rw [same]
    exact h.elsewhere j apart
  · obtain ⟨lt, others⟩ := h.named name p found first
    refine ⟨?_, others⟩
    rcases c.hub_changeHub_cases i 0 fun h => h.listen channel handler with e | e
    · exact e ▸ lt
    · exact e ▸ Nat.lt_succ_of_lt lt

/-- Someone else drops a subscription. -/
theorem remove (h : Listens channels c) {p : Place} (other : p.hub = 0 → p.subscription ∉ c.subscriptions) :
    Listens channels (c.remove p) := by
  have kept : ownListeners ((c.remove p).hub 0) = ownListeners (c.hub 0) := by
    rw [hub_remove]
    split
    next first =>
      rw [ownListeners_unsubscribe]
      refine List.filter_eq_self.mpr fun l mem => ?_
      obtain ⟨mem, own⟩ := List.mem_filter.mp mem
      exact bne_iff_ne.mpr fun same => other first (same ▸ h.mem_subscriptions mem own)
    next => rfl
  have registered : ((c.remove p).hub 0).registered = (c.hub 0).registered := by
    rw [hub_remove]
    split <;> rfl
  refine ⟨by rw [Client.remove, changeHub, List.length_modify]; exact h.first, ?_, ?_, ?_, fun j apart => ?_,
    fun name q found first => ?_⟩
  · rw [hub_remove]
    split
    · exact h.ordered.unsubscribe p.subscription
    · exact h.ordered
  · rw [kept]
    exact h.own
  · rw [kept]
    exact h.subscriptions
  · rw [hub_remove]
    split
    · rw [ownListeners_unsubscribe, h.elsewhere j apart]
      rfl
    · exact h.elsewhere j apart
  · rw [registered]
    exact h.named name q found first

/-- The name of a listener is given up. -/
theorem dropListener (h : Listens channels c) (name : String) : Listens channels (c.dropListener name) := by
  unfold Client.dropListener
  split
  next p found =>
    have removed := h.remove fun first => (h.named name p found first).2
    refine ⟨removed.first, removed.ordered, removed.own, removed.subscriptions, removed.elsewhere,
      fun other q found' first => ?_⟩
    refine removed.named other q ?_ first
    rw [KeyMap.get?_erase] at found'
    split at found'
    · cases found'
    · exact found'
  next => exact h

theorem registered_dropListener (c : Client) (name : String) (i : Nat) :
    ((c.dropListener name).hub i).registered = (c.hub i).registered := by
  unfold Client.dropListener
  split
  next p _ =>
    show ((c.remove p).hub i).registered = _
    rw [hub_remove]
    split <;> rfl
  next => rfl

theorem get?_dropListener {name other : String} (h : other ≠ name) (c : Client) :
    (c.dropListener name).listeners.get? other = c.listeners.get? other := by
  unfold Client.dropListener
  split
  · exact (KeyMap.get?_erase _ _ _).trans (if_neg (Ne.symm h))
  · rfl

theorem subscriptions_dropListener (c : Client) (name : String) :
    (c.dropListener name).subscriptions = c.subscriptions := by
  unfold Client.dropListener
  split <;> rfl

/-- A listener gets a name. -/
theorem addListener (h : Listens channels c) (i : Nat) (name channel : String) (reading : Reading)
    (actions : List Action) : Listens channels (c.addListener i name channel reading actions) := by
  have registered : Listens channels (c.register i channel (.script name reading actions)).1 :=
    h.register i channel rfl
  have dropped := registered.dropListener name
  refine ⟨dropped.first, dropped.ordered, dropped.own, dropped.subscriptions, dropped.elsewhere,
    fun other p found first => ?_⟩
  change (c.listeners.insert name ⟨i, (c.hub i).ticket channel⟩).get? other = some p at found
  rw [KeyMap.get?_insert] at found
  split at found
  next =>
    cases found
    cases (first : i = 0)
    have more : ((c.addListener 0 name channel reading actions).hub 0).registered = (c.hub 0).registered + 1 :=
      (registered_dropListener _ name 0).trans (congrArg Hub.registered (hub_changeHub_self h.first _))
    have same : (c.addListener 0 name channel reading actions).subscriptions = c.subscriptions :=
      subscriptions_dropListener _ name
    rw [more, same]
    exact ⟨Nat.lt_succ_self _, fun own => Nat.lt_irrefl _ (h.id_lt own)⟩
  next apart => exact dropped.named other p ((get?_dropListener (Ne.symm apart) _).trans found) first

/-- The store registers a listener of its own. -/
theorem subscribe (h : Listens channels c) {channel : String × Handler} (own : channel.2.isOwn = true) :
    Listens (channels ++ [channel]) (c.subscribeConnection channel) ∧ c.SameOthers (c.subscribeConnection channel) := by
  have hub : (c.subscribeConnection channel).hub 0 = (c.hub 0).listen channel.1 channel.2 :=
    hub_changeHub_self h.first _
  have others : ∀ i, i ≠ 0 → (c.subscribeConnection channel).hub i = c.hub i := fun i other =>
    hub_changeHub_of_ne other _
  obtain ⟨listeners, same⟩ := ownListeners_listen_own (h := c.hub 0) own channel.1
  refine ⟨⟨?_, ?_, ?_, ?_, fun i other => ?_, fun name p found first => ?_⟩, fun i => ?_⟩
  · show 0 < (c.hubs.modify 0 _).length
    rw [List.length_modify]
    exact h.first
  · rw [hub]
    exact h.ordered.listen _ _
  · rw [hub, listeners, List.map_append, h.own]
    rfl
  · rw [hub, listeners, List.map_append, h.subscriptions]
    rfl
  · rw [others i other]
    exact h.elsewhere i other
  · obtain ⟨lt, foreign⟩ := h.named name p found first
    rw [hub]
    refine ⟨Nat.lt_succ_of_lt lt, fun mem => ?_⟩
    rcases List.mem_append.mp mem with mem | mem
    · exact foreign mem
    · rw [List.mem_singleton.mp mem] at lt
      exact Nat.lt_irrefl _ lt
  · by_cases zero : i = 0
    · rw [zero, hub]
      exact same
    · rw [others i zero]

theorem subscribeAll (h : Listens channels c) {more : List (String × Handler)}
    (own : ∀ channel ∈ more, channel.2.isOwn) :
    Listens (channels ++ more) (more.foldl subscribeConnection c) ∧
      c.SameOthers (more.foldl subscribeConnection c) := by
  induction more generalizing c channels with
  | nil => exact ⟨by rwa [List.append_nil], fun _ => rfl⟩
  | cons channel rest ih =>
    obtain ⟨first, others⟩ := List.forall_mem_cons.mp own
    obtain ⟨listens, same⟩ := h.subscribe first
    obtain ⟨listens', same'⟩ := ih listens others
    rw [List.append_assoc] at listens'
    exact ⟨listens', same.trans same'⟩

/-- The store drops its subscriptions. -/
theorem unsubscribe (h : Listens channels c) :
    Listens [] c.unsubscribeConnection ∧ c.SameOthers c.unsubscribeConnection := by
  have hub := c.hub_unsubscribeConnection h.first
  have first : c.unsubscribeConnection.hub 0 = _ := (hub 0).trans ((if_pos rfl).trans (Hub.changed_drops _ _))
  have none : ownListeners (c.unsubscribeConnection.hub 0) = [] := by
    rw [first, ownListeners, List.filter_filter]
    refine List.filter_eq_nil_iff.mpr fun l mem kept => ?_
    rw [Bool.and_eq_true, decide_eq_true_eq] at kept
    exact kept.2 (h.mem_subscriptions mem kept.1)
  have same : c.unsubscribeConnection.listeners = c.listeners := by rw [unsubscribeConnection_eq]
  have emptied : c.unsubscribeConnection.subscriptions = [] := by rw [unsubscribeConnection_eq]
  refine ⟨⟨?_, ?_, ?_, ?_, fun i other => ?_, fun name p found zero => ?_⟩, fun i => ?_⟩
  · rw [unsubscribeConnection_eq]
    show 0 < (changeHubs c.hubs _).length
    rw [length_changeHubs]
    exact h.first
  · rw [first]
    exact ⟨h.ordered.ordered.sublist List.filter_sublist, fun l hl => h.ordered.below l (List.mem_filter.mp hl).1⟩
  · rw [none]
    rfl
  · rw [none, emptied]
    rfl
  · rw [hub, if_neg other]
    exact h.elsewhere i other
  · rw [same] at found
    rw [first, emptied]
    exact ⟨(h.named name p found zero).1, List.not_mem_nil⟩
  · by_cases zero : i = 0
    · rw [zero, first, otherListeners, otherListeners, List.filter_filter]
      refine List.filter_congr fun l mem => ?_
      cases other : l.handler.isOwn with
      | true => rfl
      | false => simp [h.not_mem_subscriptions mem other]
    · rw [hub, if_neg zero]

end Listens

/-! ## Bound or not -/

/-- Whether the connection store is bound. -/
def bound (c : Client) : Bool := c.connection.state.space.isSome

/-- The connection store, still owned, has one listener on each of its channels if it is bound, and none if it is
not. -/
structure Owns (c : Client) : Prop where
  owned : c.connectionOwned = true
  listens : Listens (if c.bound then connectionChannels else []) c

variable {c d : Client}

theorem isOwn_of_mem_connectionChannels : ∀ channel ∈ connectionChannels, channel.2.isOwn := by decide

theorem owns_of_same (h : c.Owns) (owned : d.connectionOwned = c.connectionOwned) (bound : d.bound = c.bound)
    (hubs : d.hubs = c.hubs) (subscriptions : d.subscriptions = c.subscriptions)
    (listeners : d.listeners = c.listeners) : d.Owns :=
  ⟨owned.trans h.owned, bound ▸ h.listens.of_same hubs subscriptions listeners⟩

theorem connection_attach (c : Client) (space : Uuid) : (c.startConnection (.attach space)).1.connection =
    c.connection.after Connection.behaviour (.start (.attach space)) := by
  let next := (c.turnConnection c.connectionTicket (.start (.attach space))).1
  obtain ⟨subscriptions, e⟩ := next.unsubscribeConnection.subscribeAll_eq connectionChannels
  show (connectionChannels.foldl subscribeConnection next.unsubscribeConnection).connection = _
  rw [e, unsubscribeConnection_eq]
  rfl

/-- **Binding to a space** replaces the listeners of the store, and leaves all others as they are. -/
theorem Owns.attach (h : c.Owns) (space : Uuid) : (c.startConnection (.attach space)).1.Owns ∧
    (c.startConnection (.attach space)).1.bound = true ∧ c.SameOthers (c.startConnection (.attach space)).1 := by
  let next := (c.turnConnection c.connectionTicket (.start (.attach space))).1
  obtain ⟨dropped, same⟩ := (h.listens.of_same (d := next) rfl rfl rfl).unsubscribe
  obtain ⟨renewed, same'⟩ := dropped.subscribeAll isOwn_of_mem_connectionChannels
  obtain ⟨connection, subscriptions, e⟩ := c.startConnection_attach_eq space
  have bound : (c.startConnection (.attach space)).1.bound = true := by
    rw [Client.bound, connection_attach, Flight.state_after_start]
    rfl
  refine ⟨⟨?_, ?_⟩, bound, same.trans same'⟩
  · rw [e]
    exact h.owned
  · rw [bound, if_pos rfl]
    exact renewed

theorem connection_detach (c : Client) :
    c.detach.connection = c.connection.after Connection.behaviour (.adjust .unbind) := by
  rw [detach, unsubscribeConnection_eq]
  rfl

/-- **Unbinding** removes the listeners of the store, and leaves all others as they are. -/
theorem Owns.detach (h : c.Owns) : c.detach.Owns ∧ c.detach.bound = false ∧ c.SameOthers c.detach := by
  obtain ⟨dropped, same⟩ := h.listens.unsubscribe
  refine ⟨⟨?_, ?_⟩, rfl, same⟩
  · rw [Client.detach, unsubscribeConnection_eq]
    exact h.owned
  · exact dropped.of_same rfl rfl rfl

/-! ## Moments -/

theorem space_resume (s : Connection.State) (reply : Backend.Reply) (task : Connection.Task) :
    (s.resume reply task).state.space = s.space := by
  cases task with
  | snapshot space binding =>
    show (s.finishAttach space binding reply).space = s.space
    by_cases own : s.binding = binding
    · rw [← own]
      exact (s.finishAttach_keeps space reply).1
    · rw [s.finishAttach_of_ne own]
  | request r space server =>
    obtain ⟨pending, e⟩ := s.resume_request reply r space server
    rw [e]

theorem bound_adjust {a : Connection.Adjustment} (h : a ≠ .unbind) : (c.adjustConnection a).bound = c.bound := by
  show (c.connection.state.adjust a).space.isSome = _
  rw [(c.connection.state.adjust_keeps h).1]
  rfl

theorem bound_reply (id : Nat) (reply : Backend.Reply) :
    (c.turnConnection (.connection id) (.reply id reply)).1.bound = c.bound := by
  show (c.connection.after Connection.behaviour (.reply id reply)).state.space.isSome = _
  cases waits : c.connection.task? id with
  | none =>
    rw [Flight.after_reply_of_none _ _ waits]
    rfl
  | some task =>
    rw [Flight.state_after_reply _ _ waits]
    exact congrArg Option.isSome (space_resume _ reply task)

/-- While it is owned a store is not tidied up. -/
theorem tidyConnection_of_owned (h : c.connectionOwned = true) : c.tidyConnection = c := by
  rw [tidyConnection, connectionAlive, h]
  rfl

theorem Owns.hear (h : c.Owns) (handler : Handler) (payload : Json) (scene : Scene) :
    (c.hear handler payload scene).1.Owns := by
  cases handler with
  | status | progress | features =>
    simp only [Client.hear]
    split
    · exact owns_of_same h rfl (bound_adjust (by simp)) rfl rfl rfl
    · exact h
  | changes =>
    simp only [Client.hear]
    split
    · split
      · exact owns_of_same h rfl rfl rfl rfl rfl
      · exact h
    · exact h
  | script name reading actions =>
    simp only [Client.hear]
    split
    · exact owns_of_same h rfl rfl rfl rfl rfl
    · exact h

theorem Owns.dropListener (h : c.Owns) (name : String) : (c.dropListener name).Owns := by
  obtain ⟨listeners, e⟩ := c.dropListener_eq name
  have bound : (c.dropListener name).bound = c.bound := by
    rw [e]
    rfl
  refine ⟨?_, ?_⟩
  · rw [e]
    exact h.owned
  · rw [bound]
    exact h.listens.dropListener name

theorem Owns.addListener (h : c.Owns) (i : Nat) (name channel : String) (reading : Reading) (actions : List Action) :
    (c.addListener i name channel reading actions).Owns := by
  have bound : (c.addListener i name channel reading actions).bound = c.bound := by
    rw [addListener_eq]
    rfl
  refine ⟨?_, ?_⟩
  · rw [addListener_eq]
    exact h.owned
  · rw [bound]
    exact h.listens.addListener i name channel reading actions

theorem Owns.act (h : c.Owns) (scene : Scene) (action : Action) : (c.act scene action).1.Owns := by
  cases action with
  | unsubscribe name => exact h.dropListener name
  | listen name channel reading actions => exact h.addListener scene.hub name channel reading actions
  | dispatch e => exact owns_of_same h rfl rfl rfl rfl rfl
  | attach space => exact (h.attach space).1
  | detach => exact h.detach.1

theorem Owns.answer (h : c.Owns) (reply : Backend.Reply) (ticket : Ticket) : (c.answer reply ticket).1.Owns := by
  cases ticket with
  | connection id =>
    let turned := (c.turnConnection (.connection id) (.reply id reply)).1
    show turned.tidyConnection.Owns
    rw [tidyConnection_of_owned (c := turned) h.owned]
    exact owns_of_same h rfl (bound_reply id reply) rfl rfl rfl
  | registry id => exact owns_of_same h rfl rfl rfl rfl rfl
  | receive id => exact h

/-- **Every piece of work** leaves the store with its own listeners. -/
theorem Owns.perform (h : c.Owns) (work : Work) : (c.perform work).1.Owns := by
  cases work with
  | hear handler payload scene => exact h.hear handler payload scene
  | act action scene => exact h.act scene action
  | answer ticket reply => exact h.answer reply ticket
  | refresh => exact owns_of_same h rfl rfl rfl rfl rfl
  | pump receiver left =>
    obtain ⟨bus, pumps, asleep, putOff, new, e⟩ := c.pump_eq receiver left
    rw [Client.perform, e]
    exact owns_of_same h rfl rfl rfl rfl rfl
  | receive receiver =>
    obtain ⟨bus, waits, queue, asleep, e⟩ := c.receive_eq receiver
    rw [Client.perform, e]
    exact owns_of_same h rfl rfl rfl rfl rfl

/-- Whether a listener of the connection store is to hear something. -/
def Work.isOwn : Work → Bool
  | .hear handler _ _ => handler.isOwn
  | _ => false

/-- Nobody else registers listeners for the connection store, drops its subscriptions or calls its listeners. -/
def Moment.Orderly (c : Client) : Moment → Prop
  | .listen _ _ handler => handler.isOwn = false
  | .drop p => p.hub = 0 → p.subscription ∉ c.subscriptions
  | .demand w => w.isOwn = false
  | .work | .dispatch .. => True

/-- So it is in a whole run. -/
def Orderly : Client → List Moment → Prop
  | _, [] => True
  | c, o :: os => o.Orderly c ∧ Orderly (c.after o) os

theorem orderly_of_append {os ps : List Moment} (h : Orderly c (os ++ ps)) : Orderly c os := by
  induction os generalizing c with
  | nil => trivial
  | cons o os ih => exact ⟨h.1, ih h.2⟩

/-- **One moment.** -/
theorem Owns.after {o : Moment} (h : c.Owns) (orderly : o.Orderly c) : (c.after o).Owns := by
  cases o with
  | work =>
    cases due : c.due? with
    | none =>
      rcases after_work_none due with rests | ⟨rests, -⟩
      · rw [rests]
        exact owns_of_same h rfl rfl rfl rfl rfl
      · rwa [rests]
    | some next =>
      obtain ⟨work, d⟩ := next
      rw [after_work_some due]
      refine Owns.perform ?_ work
      rcases due?_cases due with ⟨rest, -, rfl⟩ | ⟨rest, -, -, -, rfl⟩ <;> exact owns_of_same h rfl rfl rfl rfl rfl
  | listen i channel handler => exact ⟨h.owned, h.listens.register i channel orderly⟩
  | drop p => exact ⟨h.owned, h.listens.remove orderly⟩
  | dispatch scene e => exact owns_of_same h rfl rfl rfl rfl rfl
  | demand work => exact owns_of_same h rfl rfl rfl rfl rfl

/-- **A run.** -/
theorem Owns.run {os : List Moment} (h : c.Owns) (orderly : Orderly c os) : (c.run os).Owns := by
  induction os generalizing c with
  | nil => exact h
  | cons o os ih => exact ih (h.after orderly.1) orderly.2

end Client

end Switchboard
