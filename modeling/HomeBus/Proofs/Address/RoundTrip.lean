import HomeBus.Address
import Mathlib.Data.Set.Function
import Mathlib.Tactic.Common

/-!
# Addresses and their topics

A topic is split at every slash, so a text with a slash in it falls apart when it is read, and no
text that was read has a slash. Only a device has a service in its topic.

Results:
* `splitAt_topic`: a topic has the tokens of its address if no slash is in their texts.
* `ofTopic_topic`: such an address is read back, up to a service that its topic does not hold.
* `slashFree_ofTopic`: there is no slash in an address that was read.
* `ofTopic_topic_eq_iff`: which addresses are read back as they were.
* `topic_ofTopic_eq_self_iff`: which topics are written as they were read.
* `read_and_written_topics_are_normal`: reading and writing a second time changes no topic.
-/

namespace HomeBus.Address

/-! ## Addresses that can be read back -/

/-- No slash in a text that the topic of an address holds. -/
structure Splits (a : Address) : Prop where
  payloadType : '/' ∉ a.payloadType.toList
  resourceName : '/' ∉ a.resourceName.toList
  resourceAddress : '/' ∉ a.resourceAddress.toList
  service : a.resourceType = .device →
    '/' ∉ a.serviceName.toList ∧ '/' ∉ a.serviceAddress.toList

/-- An address whose topic says all of it. -/
structure Recoverable (a : Address) : Prop extends Splits a where
  noService : a.resourceType = .app ∨ a.resourceType = .adapter →
    a.serviceName = "" ∧ a.serviceAddress = ""

/-- What the topic of an address says of it: only a device has a service. -/
def stated (a : Address) : Address :=
  if a.resourceType = .device then a else { a with serviceName := "", serviceAddress := "" }

/-- No slash in any text of an address. -/
structure SlashFree (a : Address) : Prop where
  payloadType : '/' ∉ a.payloadType.toList
  resourceName : '/' ∉ a.resourceName.toList
  resourceAddress : '/' ∉ a.resourceAddress.toList
  serviceName : '/' ∉ a.serviceName.toList
  serviceAddress : '/' ∉ a.serviceAddress.toList

variable {a b : Address} {r : Reading} {name value : String} {chars rest front : List Char}

theorem SlashFree.splits (free : SlashFree a) : Splits a where
  payloadType := free.payloadType
  resourceName := free.resourceName
  resourceAddress := free.resourceAddress
  service _ := ⟨free.serviceName, free.serviceAddress⟩

theorem stated_eq_self_iff :
    stated a = a ↔
      (a.resourceType = .app ∨ a.resourceType = .adapter →
        a.serviceName = "" ∧ a.serviceAddress = "") := by
  obtain ⟨_, _, kind, _, _, _, _⟩ := a
  cases kind <;> simp [stated, eq_comm]

/-! ## Tokens -/

/-- A token is separated at its first colon. -/
theorem splitToken?_append (plain : ':' ∉ front) :
    splitToken? (front ++ ':' :: rest) = some (front, rest) := by
  induction front with
  | nil => rfl
  | cons c front ih =>
    rw [List.mem_cons, not_or] at plain
    rw [List.cons_append, splitToken?, if_neg (Ne.symm plain.1), ih plain.2, Option.map_some]

/-- Nothing but the colon is lost of a token that is separated. -/
theorem eq_append_of_splitToken? {front rest : List Char}
    (split : splitToken? chars = some (front, rest)) : chars = front ++ ':' :: rest := by
  induction chars generalizing front with
  | nil => cases split
  | cons c chars ih =>
    rw [splitToken?] at split
    split_ifs at split with colon
    · cases split
      rw [colon, List.nil_append]
    · obtain ⟨⟨front', rest'⟩, inner, same⟩ := Option.map_eq_some_iff.1 split
      cases same
      rw [ih inner, List.cons_append]

theorem slash_not_mem_token (plain : '/' ∉ name.toList) (free : '/' ∉ value.toList) :
    '/' ∉ token name value := by
  rw [token, List.mem_append, List.mem_cons]
  rintro (h | h | h)
  · exact plain h
  · exact absurd h (by decide)
  · exact free h

/-! ## Writing -/

/-- A topic has the tokens of its address. -/
theorem splitAt_topic (splits : Splits a) : Text.splitAt '/' a.topic.toList = a.tokens := by
  rw [topic, String.toList_ofList]
  refine Text.splitAt_joinWith (List.cons_ne_nil _ _) ?_
  have msgType : '/' ∉ a.msgType.tag.toList := by cases a.msgType <;> decide
  have resourceType : '/' ∉ a.resourceType.tag.toList := by cases a.resourceType <;> decide
  intro part mem
  rw [tokens, List.mem_append] at mem
  rcases mem with mem | mem
  · simp only [List.mem_cons, List.not_mem_nil, or_false] at mem
    rcases mem with rfl | rfl | rfl | rfl | rfl
    · exact slash_not_mem_token (by decide) splits.payloadType
    · exact slash_not_mem_token (by decide) msgType
    · exact slash_not_mem_token (by decide) resourceType
    · exact slash_not_mem_token (by decide) splits.resourceName
    · exact slash_not_mem_token (by decide) splits.resourceAddress
  · split_ifs at mem with device
    · obtain ⟨serviceName, serviceAddress⟩ := splits.service device
      simp only [List.mem_cons, List.not_mem_nil, or_false] at mem
      rcases mem with rfl | rfl
      · exact slash_not_mem_token (by decide) serviceName
      · exact slash_not_mem_token (by decide) serviceAddress
    · cases mem

/-! ## Reading -/

/-- The name and the value of a token are found again; colons in the value do not matter. -/
theorem splitToken?_token (plain : ':' ∉ name.toList) (value : String) :
    splitToken? (token name value) = some (name.toList, value.toList) :=
  splitToken?_append plain

/-- The tokens of an address say no more and no less than its topic does: the second `ad` stands
    behind `sv`, so it is the service's. -/
theorem foldl_tokens (a : Address) :
    a.tokens.foldl Reading.add ⟨{}, false⟩ = ⟨stated a, a.resourceType = .device⟩ := by
  obtain ⟨payloadType, msgType, kind, resourceName, resourceAddress, _, _⟩ := a
  have msg := MsgType.ofTag?_tag msgType
  have resource := ResourceType.ofTag?_tag kind
  cases kind <;> simp [tokens, Reading.add, splitToken?_token, msg, resource, stated]

/-- An address without slashes is read back, up to a service that its topic does not hold. -/
theorem ofTopic_topic (splits : Splits a) : ofTopic a.topic = stated a := by
  rw [ofTopic, splitAt_topic splits, foldl_tokens]

/-- A token without a slash brings none into an address. -/
theorem SlashFree.add (free : SlashFree r.address) (part : '/' ∉ chars) :
    SlashFree (r.add chars).address := by
  unfold Reading.add
  cases split : splitToken? chars with
  | none => exact free
  | some pair =>
    obtain ⟨name, value⟩ := pair
    have inside : '/' ∉ (String.ofList value).toList := by
      rw [eq_append_of_splitToken? split, List.mem_append, List.mem_cons, not_or, not_or] at part
      simpa using part.2.2
    simp only
    -- One case for each name of a token; only texts come from the value.
    split_ifs
    · exact { free with payloadType := inside }
    · split <;> exact { free with }
    · split <;> exact { free with }
    · exact { free with resourceName := inside }
    · exact { free with serviceName := inside }
    · exact { free with serviceAddress := inside }
    · exact { free with resourceAddress := inside }
    · exact free

theorem SlashFree.foldl_add {parts : List (List Char)} (free : SlashFree r.address)
    (without : ∀ part ∈ parts, '/' ∉ part) : SlashFree (parts.foldl Reading.add r).address := by
  induction parts generalizing r with
  | nil => exact free
  | cons part parts ih =>
    obtain ⟨here, later⟩ := List.forall_mem_cons.1 without
    exact ih (free.add here) later

/-- There is no slash in an address that was read. -/
theorem slashFree_ofTopic (topic : String) : SlashFree (ofTopic topic) := by
  have empty : SlashFree {} := by constructor <;> decide
  exact empty.foldl_add fun part mem => Text.not_mem_of_mem_splitAt mem

/-! ## Round trips -/

/-- An address is read back from its topic exactly if there is no slash in the texts that the topic
    holds and no service that it does not hold; so different ones have different topics. -/
theorem ofTopic_topic_eq_iff :
    (∀ a : Address, ofTopic a.topic = a ↔ Recoverable a) ∧ Set.InjOn topic {a | Recoverable a} := by
  have read (a : Address) : ofTopic a.topic = a ↔ Recoverable a := by
    constructor
    · intro same
      have free := slashFree_ofTopic a.topic
      rw [same] at free
      rw [ofTopic_topic free.splits, stated_eq_self_iff] at same
      exact ⟨free.splits, same⟩
    · intro whole
      rw [ofTopic_topic whole.toSplits]
      exact stated_eq_self_iff.2 whole.noService
  refine ⟨read, ?_⟩
  intro a whole b whole' same
  calc a = ofTopic a.topic := ((read a).2 whole).symm
    _ = ofTopic b.topic := by rw [same]
    _ = b := (read b).2 whole'

/-- A slash in a name makes another address of it. -/
example : ofTopic ({ resourceName := "zw/sv:x" } : Address).topic = { resourceName := "zw" } := by
  decide

/-! ## Normal topics -/

/-- The topic of an address holds what it says of the address and no more. -/
theorem topic_stated (a : Address) : (stated a).topic = a.topic := by
  unfold stated
  split_ifs with device
  · rfl
  · simp only [topic, tokens, if_neg device]

/-- An address that was read and written is read without the service that was not written. -/
theorem ofTopic_topic_ofTopic (topic : String) :
    ofTopic (ofTopic topic).topic = stated (ofTopic topic) :=
  ofTopic_topic (slashFree_ofTopic topic).splits

/-- The topics that reading and writing leave as they are, are those of addresses without
    slashes. -/
theorem topic_ofTopic_eq_self_iff {topic : String} :
    (ofTopic topic).topic = topic ↔ ∃ a : Address, Splits a ∧ a.topic = topic := by
  constructor
  · intro same
    exact ⟨ofTopic topic, (slashFree_ofTopic topic).splits, same⟩
  · rintro ⟨a, splits, rfl⟩
    rw [ofTopic_topic splits, topic_stated]

/-- A topic is normal once it was read and written; to read it again gives the same address unless
    an application or an adapter had been given a service. -/
theorem read_and_written_topics_are_normal (topic : String) :
    (ofTopic (ofTopic topic).topic).topic = (ofTopic topic).topic ∧
      (ofTopic (ofTopic topic).topic = ofTopic topic ↔
        (ofTopic topic).resourceType = .device ∨
          (ofTopic topic).serviceName = "" ∧ (ofTopic topic).serviceAddress = "") := by
  rw [ofTopic_topic_ofTopic]
  refine ⟨topic_stated _, ?_⟩
  rw [stated_eq_self_iff]
  cases (ofTopic topic).resourceType <;> simp

/-- The service of an application is lost in its topic. -/
example : ofTopic (ofTopic "rt:app/rn:x/sv:y").topic =
    { resourceType := .app, resourceName := "x" } := by
  decide

end HomeBus.Address
