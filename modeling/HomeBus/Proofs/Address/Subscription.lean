import HomeBus.Pending
import HomeBus.Proofs.Address.RoundTrip
import HomeBus.Proofs.Hub.Deliveries
import HomeBus.Proofs.Topic.Wildcards

/-!
# Topics of addresses as filters

Whatever is in the texts of an address, slashes apart, its topic has no wildcard among its levels,
since every level holds the colon of a token. Taken as a filter it selects itself and no other
topic, so that the hub and the table of pending requests agree on what is published to an address.

Results:
* `literal_tokens`: the tokens of an address are no wildcards.
* `mem_reached_subscribe_iff`: what a subscription adds to the publications that reach a session.
* `selected_by_topic_iff`: a subscription to the topic of an address adds what is published on it.
-/

namespace HomeBus

/-! ## What a subscription adds -/

namespace Hub

theorem exists_mem_addFilter_iff {P : String → Prop} (id : ℕ) (filter : String)
    (session : Session) :
    (∃ other ∈ (addFilter id filter session).filters, P other) ↔
      (∃ other ∈ session.filters, P other) ∨ session.id = id ∧ P filter := by
  by_cases own : session.id = id
  · subst own
    by_cases known : filter ∈ session.filters
    · -- the filter is there already, so nothing is added
      have same : addFilter session.id filter session = session := by simp [addFilter, known]
      rw [same]
      constructor
      · exact .inl
      · rintro (found | ⟨-, holds⟩)
        · exact found
        · exact ⟨filter, known, holds⟩
    · have added : (addFilter session.id filter session).filters = session.filters ++ [filter] := by
        simp [addFilter, known]
      simp [added, or_and_right, exists_or]
  · have same : addFilter id filter session = session := by simp [addFilter, own]
    simp [same, own]

/-- A subscription lets the publications that its filter selects reach the session of its endpoint,
    if there is one, and changes nothing else in what reaches whom. -/
theorem mem_reached_subscribe_iff (hub : Hub) (endpoint : ℕ) (filter topic : String) (id : ℕ) :
    id ∈ (hub.subscribe endpoint filter).1.reached topic ↔
      id ∈ hub.reached topic ∨
        (hub.isConnected endpoint = true ∧ hub.connection endpoint = some id) ∧
          Topic.selects filter topic = true := by
  rw [mem_reached_iff, mem_reached_iff]
  rcases hub.subscribe_cases endpoint filter with ⟨own, remembers, open_, eq⟩ | ⟨off, e, eq⟩
  · have connected : hub.isConnected endpoint = true := isConnected_iff.2 ⟨own, remembers, open_⟩
    rw [eq, remembers, Option.some.injEq]
    constructor
    · rintro ⟨_, changed, rfl, selected⟩
      obtain ⟨session, mem, rfl⟩ := List.mem_map.1 changed
      rw [id_addFilter]
      rcases (exists_mem_addFilter_iff own filter session).1 selected with before | ⟨same, added⟩
      · exact .inl ⟨session, mem, rfl, before⟩
      · exact .inr ⟨⟨connected, same.symm⟩, added⟩
    · rintro (⟨session, mem, rfl, before⟩ | ⟨⟨-, rfl⟩, added⟩)
      · exact ⟨_, List.mem_map_of_mem mem, id_addFilter ..,
          (exists_mem_addFilter_iff own filter session).2 (.inl before)⟩
      · obtain ⟨session, mem, rfl⟩ := hasSession_iff.1 open_
        exact ⟨_, List.mem_map_of_mem mem, id_addFilter ..,
          (exists_mem_addFilter_iff _ filter session).2 (.inr ⟨rfl, added⟩)⟩
  · simp [eq, off]

end Hub

namespace Address

variable {a : Address} {chars : List Char}

/-! ## No wildcards -/

theorem colon_mem_token (name value : String) : ':' ∈ token name value :=
  List.mem_append_right _ List.mem_cons_self

theorem colon_mem_tokens (a : Address) : ∀ chars ∈ a.tokens, ':' ∈ chars := by
  by_cases device : a.resourceType = .device <;> simp [tokens, device, colon_mem_token]

/-- Every token holds a colon, which no wildcard does. -/
theorem literal_tokens (a : Address) : Topic.Literal a.tokens := by
  intro chars mem
  have colon := a.colon_mem_tokens chars mem
  constructor
  · rintro rfl
    exact absurd colon (by decide)
  · rintro rfl
    exact absurd colon (by decide)

theorem literal_levels (splits : Splits a) : Topic.Literal (Topic.levels a.topic) := by
  rw [Topic.levels, splitAt_topic splits]
  exact a.literal_tokens

/-! ## Subscriptions to addresses -/

/-- The topic of an address, taken as a filter, selects itself and nothing else. A subscription to
    it lets exactly the publications on it reach the endpoint that subscribed, next to those that
    reached it before, and a request that waits for a reply on it makes the same choice. -/
theorem selected_by_topic_iff (splits : Splits a) :
    (∀ topic, Topic.selects a.topic topic = true ↔ topic = a.topic) ∧
      (∀ (hub : Hub) (endpoint id : ℕ) (topic : String),
        id ∈ (hub.subscribe endpoint a.topic).1.reached topic ↔
          id ∈ hub.reached topic ∨
            (hub.isConnected endpoint = true ∧ hub.connection endpoint = some id) ∧
              topic = a.topic) ∧
      ∀ (e : Expectation) (strict : Bool) (topic : String) (m : Message),
        e.responseTopic = a.topic →
          e.accepts strict topic m =
            (Topic.selects a.topic topic && e.accepts strict a.topic m) := by
  have itself (topic : String) : Topic.selects a.topic topic = true ↔ topic = a.topic :=
    Topic.selects_iff_eq (literal_levels splits)
  refine ⟨itself, fun hub endpoint id topic => ?_, fun e strict topic m waits => ?_⟩
  · rw [Hub.mem_reached_subscribe_iff, itself]
  · by_cases same : topic = a.topic
    · rw [(itself topic).2 same, same, Bool.true_and]
    · have unselected : Topic.selects a.topic topic = false := by
        rw [← Bool.not_eq_true, itself]
        exact same
      have refused : (e.responseTopic == topic) = false := by
        rw [waits, beq_eq_false_iff_ne]
        exact Ne.symm same
      simp [unselected, Expectation.accepts, refused]

/-- A device whose name, address and service look like wildcards is not confused with another
    one. -/
theorem selected_by_topic_iff_of_wildcards :
    let a := Address.device .evt "+" "#" "+:#" ""
    let hub := Hub.new.run [.connect 0 "c"]
    Splits a ∧ Topic.selects a.topic "pt:j1/mt:evt/rt:dev/rn:+/ad:#/sv:+:#/ad:" = true ∧
      Topic.selects a.topic "pt:j1/mt:evt/rt:dev/rn:x/ad:#/sv:+:#/ad:" ≠ true ∧
      1 ∈ (hub.subscribe 0 a.topic).1.reached a.topic := by
  intro a hub
  have splits : Splits a :=
    ⟨by decide, by decide, by decide, fun _ => ⟨by decide, by decide⟩⟩
  obtain ⟨itself, reached, -⟩ := selected_by_topic_iff splits
  have arrives := (reached hub 0 1 a.topic).2 (.inr ⟨⟨rfl, rfl⟩, rfl⟩)
  refine ⟨splits, (itself _).2 (by decide), ?_, arrives⟩
  intro selected
  exact absurd ((itself _).1 selected) (by decide)

end Address

end HomeBus
