import HomeBus.Proofs.Address.RoundTrip
import Mathlib.Data.List.Induction
import Mathlib.Logic.Function.Basic

/-!
# What a topic says of an address

A topic may hold any tokens in any order and number. Of the tokens that are about the same thing the
last one counts, where `ad` is about the resource up to the first `sv` and about the service from
then on. A token with an unknown name or kind, or with no name at all, is about nothing.

Results:
* `kind`: what a token can be about.
* `Reads.add`, `reads_foldl`: what was read is what the tokens so far say.
* `ofTopic_eq_iff_means`: the address of a topic is the one that its tokens say.
* `foldl_add_padded`: tokens about nothing can be put in anywhere.
* `last_tokens_count`: both, for the texts of topics.
-/

namespace HomeBus

theorem MsgType.ofTag?_eq_none {text : String} (other : ∀ t : MsgType, text ≠ t.tag) :
    ofTag? text = none := by
  have cmd : text ≠ "cmd" := other .cmd
  have evt : text ≠ "evt" := other .evt
  rw [ofTag?, if_neg cmd, if_neg evt]

theorem ResourceType.ofTag?_eq_none {text : String} (other : ∀ k : ResourceType, text ≠ k.tag) :
    ofTag? text = none := by
  have device : text ≠ "dev" := other .device
  have app : text ≠ "app" := other .app
  have adapter : text ≠ "ad" := other .adapter
  rw [ofTag?, if_neg device, if_neg app, if_neg adapter]

theorem MsgType.tag_injective : Function.Injective MsgType.tag := by
  intro t t' same
  rw [← Option.some.injEq, ← ofTag?_tag t, ← ofTag?_tag t', same]

theorem ResourceType.tag_injective : Function.Injective ResourceType.tag := by
  intro k k' same
  rw [← Option.some.injEq, ← ofTag?_tag k, ← ofTag?_tag k', same]

namespace Address

/-! ## The rule -/

/-- Among some tokens, `x` is what the last one of the form `write y` stands for, or `default` if
    there is no such token. -/
def LastOf {α : Type} (write : α → List Char) (default x : α) (tokens : List (List Char)) : Prop :=
  (∃ front back, tokens = front ++ write x :: back ∧ ∀ y, write y ∉ back) ∨
    (∀ y, write y ∉ tokens) ∧ x = default

/-- Whether a token is about the name of a service. -/
def namesService (chars : List Char) : Bool := (token "sv" "").isPrefixOf chars

/-- The tokens before the first one that names a service. -/
def beforeService (tokens : List (List Char)) : List (List Char) :=
  tokens.takeWhile fun chars => !namesService chars

/-- The tokens behind the first one that names a service. -/
def afterService (tokens : List (List Char)) : List (List Char) :=
  (tokens.dropWhile fun chars => !namesService chars).tail

/-- Tokens say of an address what the last one about each of its parts does. -/
structure Means (tokens : List (List Char)) (a : Address) : Prop where
  payloadType : LastOf (token "pt") jsonPayload a.payloadType tokens
  msgType : LastOf (fun t : MsgType => token "mt" t.tag) .cmd a.msgType tokens
  resourceType : LastOf (fun k : ResourceType => token "rt" k.tag) .device a.resourceType tokens
  resourceName : LastOf (token "rn") "" a.resourceName tokens
  resourceAddress : LastOf (token "ad") "" a.resourceAddress (beforeService tokens)
  serviceName : LastOf (token "sv") "" a.serviceName tokens
  serviceAddress : LastOf (token "ad") "" a.serviceAddress (afterService tokens)

/-- A token about nothing: it has no name, or an unknown one, or names an unknown kind. -/
inductive Idle : List Char → Prop
  | unnamed {chars : List Char} (plain : ':' ∉ chars) : Idle chars
  | unknown {name value : String} (plain : ':' ∉ name.toList)
      (other : name ∉ ["pt", "mt", "rt", "rn", "ad", "sv"]) : Idle (token name value)
  | msgType {value : String} (other : ∀ t : MsgType, value ≠ t.tag) : Idle (token "mt" value)
  | resourceType {value : String} (other : ∀ k : ResourceType, value ≠ k.tag) :
      Idle (token "rt" value)

/-- The same tokens in the same order, with idle ones put in anywhere. -/
inductive Padded : List (List Char) → List (List Char) → Prop
  | nil : Padded [] []
  | keep (chars : List Char) {tokens padded : List (List Char)} (rest : Padded tokens padded) :
      Padded (chars :: tokens) (chars :: padded)
  | insert {chars : List Char} {tokens padded : List (List Char)} (idle : Idle chars)
      (rest : Padded tokens padded) : Padded tokens (chars :: padded)

variable {α : Type} {write : α → List Char} {default x y : α} {chars : List Char}
  {tokens padded : List (List Char)} {name value value' : String} {a b : Address} {r : Reading}

/-! ## The last token of a form -/

theorem forall_not_mem_concat_iff :
    (∀ y, write y ∉ tokens ++ [chars]) ↔ (∀ y, write y ∉ tokens) ∧ ∀ y, chars ≠ write y := by
  simp only [List.mem_append, List.mem_singleton, not_or, forall_and, ne_comm, ne_eq]

theorem lastOf_concat_iff :
    LastOf write default x (tokens ++ [chars]) ↔
      chars = write x ∨ (∀ y, chars ≠ write y) ∧ LastOf write default x tokens := by
  constructor
  · rintro (⟨front, back, same, later⟩ | ⟨never, rfl⟩)
    · rcases List.eq_nil_or_concat back with rfl | ⟨back, last, rfl⟩
      · have here := (List.append_inj' same rfl).2
        exact .inl (List.singleton_inj.1 here)
      · rw [List.concat_eq_append, ← List.cons_append, ← List.append_assoc] at same
        obtain ⟨earlier, here⟩ := List.append_inj' same rfl
        rw [List.concat_eq_append, ← here, forall_not_mem_concat_iff] at later
        exact .inr ⟨later.2, .inl ⟨front, back, earlier, later.1⟩⟩
    · rw [forall_not_mem_concat_iff] at never
      exact .inr ⟨never.2, .inr ⟨never.1, rfl⟩⟩
  · rintro (rfl | ⟨other, ⟨front, back, rfl, later⟩ | ⟨never, rfl⟩⟩)
    · exact .inl ⟨tokens, [], rfl, fun _ => List.not_mem_nil⟩
    · have later := forall_not_mem_concat_iff.2 ⟨later, other⟩
      exact .inl ⟨front, back ++ [chars], List.append_assoc .., later⟩
    · exact .inr ⟨forall_not_mem_concat_iff.2 ⟨never, other⟩, rfl⟩

/-- One token more, if it sets the value that its form is about and keeps it otherwise. -/
theorem LastOf.concat (before : LastOf write default x tokens) (hit : ∀ z, chars = write z → y = z)
    (miss : (∀ z, chars ≠ write z) → y = x) : LastOf write default y (tokens ++ [chars]) := by
  rw [lastOf_concat_iff]
  by_cases form : ∃ z, chars = write z
  · obtain ⟨z, form⟩ := form
    rw [hit z form]
    exact .inl form
  · rw [not_exists] at form
    rw [miss form]
    exact .inr ⟨form, before⟩

/-- There is one value only that the tokens can stand for. -/
theorem LastOf.unique (injective : Function.Injective write) (hx : LastOf write default x tokens)
    (hy : LastOf write default y tokens) : x = y := by
  induction tokens using List.reverseRecOn with
  | nil =>
    have only {z : α} (h : LastOf write default z []) : z = default := by simpa [LastOf] using h
    rw [only hx, only hy]
  | append_singleton tokens chars ih =>
    rcases lastOf_concat_iff.1 hx with rfl | ⟨other, hx⟩
    · rcases lastOf_concat_iff.1 hy with same | ⟨other, -⟩
      · exact injective same
      · exact absurd rfl (other x)
    · rcases lastOf_concat_iff.1 hy with same | ⟨-, hy⟩
      · exact absurd same (other y)
      · exact ih hx hy

/-! ## Kinds of tokens -/

@[simp]
theorem token_inj : token name value = token name value' ↔ value = value' := by
  simp [token, String.toList_inj]

theorem namesService_iff : namesService chars = true ↔ ∃ name, chars = token "sv" name := by
  rw [namesService, List.isPrefixOf_iff_prefix]
  constructor
  · rintro ⟨rest, rfl⟩
    exact ⟨String.ofList rest, by simp [token]⟩
  · rintro ⟨name, rfl⟩
    exact ⟨name.toList, by simp [token]⟩

/-- What a token is about. -/
inductive Kind : List Char → Prop
  | payloadType (value : String) : Kind (token "pt" value)
  | msgType (t : MsgType) : Kind (token "mt" t.tag)
  | resourceType (k : ResourceType) : Kind (token "rt" k.tag)
  | resourceName (value : String) : Kind (token "rn" value)
  | address (value : String) : Kind (token "ad" value)
  | serviceName (value : String) : Kind (token "sv" value)
  | idle {chars : List Char} (idle : Idle chars) : Kind chars

/-- A token has no colon, or a name without a colon before its first one. -/
theorem token_cases (chars : List Char) :
    ':' ∉ chars ∨ ∃ name value : String, ':' ∉ name.toList ∧ chars = token name value := by
  by_cases colon : ':' ∈ chars
  · obtain ⟨front, rest, rfl, plain⟩ := List.eq_append_cons_of_mem colon
    refine .inr ⟨String.ofList front, String.ofList rest, ?_, ?_⟩
    · rwa [String.toList_ofList]
    · rw [token, String.toList_ofList, String.toList_ofList]
  · exact .inl colon

theorem kind (chars : List Char) : Kind chars := by
  rcases token_cases chars with plain | ⟨name, value, plain, rfl⟩
  · exact .idle (.unnamed plain)
  · by_cases known : name ∈ ["pt", "mt", "rt", "rn", "ad", "sv"]
    · simp only [List.mem_cons, List.not_mem_nil, or_false] at known
      rcases known with rfl | rfl | rfl | rfl | rfl | rfl
      · exact .payloadType value
      · by_cases tagged : ∃ t : MsgType, value = t.tag
        · obtain ⟨t, rfl⟩ := tagged
          exact .msgType t
        · exact .idle (.msgType (not_exists.1 tagged))
      · by_cases tagged : ∃ k : ResourceType, value = k.tag
        · obtain ⟨k, rfl⟩ := tagged
          exact .resourceType k
        · exact .idle (.resourceType (not_exists.1 tagged))
      · exact .resourceName value
      · exact .address value
      · exact .serviceName value
    · exact .idle (.unknown plain known)

/-! ## Reading one token -/

@[simp]
theorem add_payloadType (r : Reading) (value : String) :
    r.add (token "pt" value) = { r with address := { r.address with payloadType := value } } := by
  simp [Reading.add, splitToken?_token]

@[simp]
theorem add_msgType (r : Reading) (t : MsgType) :
    r.add (token "mt" t.tag) = { r with address := { r.address with msgType := t } } := by
  simp [Reading.add, splitToken?_token, MsgType.ofTag?_tag]

@[simp]
theorem add_resourceType (r : Reading) (k : ResourceType) :
    r.add (token "rt" k.tag) = { r with address := { r.address with resourceType := k } } := by
  simp [Reading.add, splitToken?_token, ResourceType.ofTag?_tag]

@[simp]
theorem add_resourceName (r : Reading) (value : String) :
    r.add (token "rn" value) = { r with address := { r.address with resourceName := value } } := by
  simp [Reading.add, splitToken?_token]

@[simp]
theorem add_address (r : Reading) (value : String) :
    r.add (token "ad" value) =
      if r.inService then { r with address := { r.address with serviceAddress := value } }
      else { r with address := { r.address with resourceAddress := value } } := by
  simp [Reading.add, splitToken?_token]

@[simp]
theorem add_serviceName (r : Reading) (value : String) :
    r.add (token "sv" value) = ⟨{ r.address with serviceName := value }, true⟩ := by
  simp [Reading.add, splitToken?_token]

theorem splitToken?_of_plain (plain : ':' ∉ chars) : splitToken? chars = none := by
  induction chars with
  | nil => rfl
  | cons c chars ih =>
    rw [List.mem_cons, not_or] at plain
    rw [splitToken?, if_neg (Ne.symm plain.1), ih plain.2, Option.map_none]

theorem add_idle (idle : Idle chars) (r : Reading) : r.add chars = r := by
  cases idle with
  | unnamed plain => simp [Reading.add, splitToken?_of_plain plain]
  | unknown plain other =>
    simp only [List.mem_cons, List.not_mem_nil, or_false, not_or] at other
    simp [Reading.add, splitToken?_token plain, other]
  | msgType other => simp [Reading.add, splitToken?_token, MsgType.ofTag?_eq_none other]
  | resourceType other => simp [Reading.add, splitToken?_token, ResourceType.ofTag?_eq_none other]

/-- A token leaves alone what it is not about. -/
structure Leaves (chars : List Char) (before after : Reading) : Prop where
  payloadType : (∀ value, chars ≠ token "pt" value) →
    after.address.payloadType = before.address.payloadType
  msgType : (∀ t : MsgType, chars ≠ token "mt" t.tag) →
    after.address.msgType = before.address.msgType
  resourceType : (∀ k : ResourceType, chars ≠ token "rt" k.tag) →
    after.address.resourceType = before.address.resourceType
  resourceName : (∀ value, chars ≠ token "rn" value) →
    after.address.resourceName = before.address.resourceName
  resourceAddress : before.inService = true ∨ (∀ value, chars ≠ token "ad" value) →
    after.address.resourceAddress = before.address.resourceAddress
  serviceName : (∀ value, chars ≠ token "sv" value) →
    after.address.serviceName = before.address.serviceName
  serviceAddress : before.inService = false ∨ (∀ value, chars ≠ token "ad" value) →
    after.address.serviceAddress = before.address.serviceAddress
  inService : (∀ value, chars ≠ token "sv" value) → after.inService = before.inService

theorem leaves_add (r : Reading) (chars : List Char) : Leaves chars r (r.add chars) := by
  cases kind chars with
  | payloadType value => constructor <;> simp
  | msgType t => constructor <;> simp
  | resourceType k => constructor <;> simp
  | resourceName value => constructor <;> simp
  | address value => constructor <;> cases service : r.inService <;> simp [service]
  | serviceName value => constructor <;> simp
  | idle idle => constructor <;> simp [add_idle idle]

theorem inService_add (r : Reading) (chars : List Char) :
    (r.add chars).inService = (r.inService || namesService chars) := by
  cases service : namesService chars with
  | true =>
    obtain ⟨name, rfl⟩ := namesService_iff.1 service
    simp
  | false =>
    rw [Bool.or_false]
    refine (leaves_add r chars).inService fun name form => ?_
    rw [namesService_iff.2 ⟨name, form⟩] at service
    cases service

/-! ## Reading all tokens -/

theorem beforeService_concat (tokens : List (List Char)) (chars : List Char) :
    beforeService (tokens ++ [chars]) =
      if tokens.any namesService || namesService chars then beforeService tokens
      else beforeService tokens ++ [chars] := by
  induction tokens with
  | nil => cases service : namesService chars <;> simp [beforeService, service]
  | cons first tokens ih =>
    unfold beforeService at ih ⊢
    cases service : namesService first with
    | true => simp [service]
    | false =>
      simp only [List.cons_append, List.takeWhile_cons, List.any_cons, service, Bool.not_false,
        Bool.false_or, if_true, ih]
      split_ifs <;> rfl

theorem afterService_concat (tokens : List (List Char)) (chars : List Char) :
    afterService (tokens ++ [chars]) =
      if tokens.any namesService then afterService tokens ++ [chars] else afterService tokens := by
  induction tokens with
  | nil => cases service : namesService chars <;> simp [afterService, service]
  | cons first tokens ih =>
    unfold afterService at ih ⊢
    cases service : namesService first with
    | true => simp [service]
    | false => simpa [service] using ih

/-- A reading holds what the tokens so far say, and knows whether there was a service among
    them. -/
structure Reads (tokens : List (List Char)) (r : Reading) : Prop
    extends Means tokens r.address where
  inService : r.inService = tokens.any namesService

/-- An address token is about the resource as long as no token has named a service. -/
theorem Reads.resourceAddress_add (reads : Reads tokens r) (chars : List Char) :
    LastOf (token "ad") "" (r.add chars).address.resourceAddress
      (beforeService (tokens ++ [chars])) := by
  have leaves := leaves_add r chars
  rw [beforeService_concat, ← reads.inService]
  cases inside : r.inService with
  | true =>
    rw [leaves.resourceAddress (.inl inside)]
    exact reads.resourceAddress
  | false =>
    cases service : namesService chars with
    | true =>
      obtain ⟨name, rfl⟩ := namesService_iff.1 service
      rw [leaves.resourceAddress (.inr fun value => by simp [token])]
      exact reads.resourceAddress
    | false =>
      refine reads.resourceAddress.concat (fun value form => ?_) fun other =>
        leaves.resourceAddress (.inr other)
      rw [form, add_address, inside]
      rfl

/-- An address token is about the service once a token has named one. -/
theorem Reads.serviceAddress_add (reads : Reads tokens r) (chars : List Char) :
    LastOf (token "ad") "" (r.add chars).address.serviceAddress
      (afterService (tokens ++ [chars])) := by
  have leaves := leaves_add r chars
  rw [afterService_concat, ← reads.inService]
  cases inside : r.inService with
  | true =>
    refine reads.serviceAddress.concat (fun value form => ?_) fun other =>
      leaves.serviceAddress (.inr other)
    rw [form, add_address, inside]
    rfl
  | false =>
    rw [leaves.serviceAddress (.inl inside)]
    exact reads.serviceAddress

/-- A token that is read is taken into account as the last one of all tokens so far. -/
theorem Reads.add (reads : Reads tokens r) (chars : List Char) :
    Reads (tokens ++ [chars]) (r.add chars) := by
  have leaves := leaves_add r chars
  exact
    { payloadType := reads.payloadType.concat (fun value form => by rw [form, add_payloadType])
        leaves.payloadType
      msgType := reads.msgType.concat (fun t form => by rw [form, add_msgType]) leaves.msgType
      resourceType := reads.resourceType.concat (fun k form => by rw [form, add_resourceType])
        leaves.resourceType
      resourceName := reads.resourceName.concat (fun value form => by rw [form, add_resourceName])
        leaves.resourceName
      resourceAddress := reads.resourceAddress_add chars
      serviceName := reads.serviceName.concat (fun name form => by rw [form, add_serviceName])
        leaves.serviceName
      serviceAddress := reads.serviceAddress_add chars
      inService := by rw [inService_add, reads.inService]; simp }

/-- What was read of tokens is what they say. -/
theorem reads_foldl (tokens : List (List Char)) :
    Reads tokens (tokens.foldl Reading.add ⟨{}, false⟩) := by
  induction tokens using List.reverseRecOn with
  | nil =>
    have unset {α : Type} {write : α → List Char} {x : α} : LastOf write x x [] :=
      .inr ⟨fun _ => List.not_mem_nil, rfl⟩
    exact ⟨⟨unset, unset, unset, unset, unset, unset, unset⟩, rfl⟩
  | append_singleton tokens chars ih =>
    rw [List.foldl_append, List.foldl_cons, List.foldl_nil]
    exact ih.add chars

/-- Tokens say one address only. -/
theorem Means.unique (means : Means tokens a) (means' : Means tokens b) : a = b := by
  have text (name : String) : Function.Injective (token name) := fun _ _ => token_inj.1
  have msgType := means.msgType.unique ((text _).comp MsgType.tag_injective) means'.msgType
  have resourceType :=
    means.resourceType.unique ((text _).comp ResourceType.tag_injective) means'.resourceType
  obtain ⟨_, _, _, _, _, _, _⟩ := a
  obtain ⟨_, _, _, _, _, _, _⟩ := b
  rw [mk.injEq]
  exact ⟨means.payloadType.unique (text _) means'.payloadType, msgType, resourceType,
    means.resourceName.unique (text _) means'.resourceName,
    means.resourceAddress.unique (text _) means'.resourceAddress,
    means.serviceName.unique (text _) means'.serviceName,
    means.serviceAddress.unique (text _) means'.serviceAddress⟩

/-- The address of a topic is the one that its tokens say. -/
theorem ofTopic_eq_iff_means {topic : String} :
    ofTopic topic = a ↔ Means (Text.splitAt '/' topic.toList) a := by
  have means := (reads_foldl (Text.splitAt '/' topic.toList)).toMeans
  constructor
  · rintro rfl
    exact means
  · intro means'
    exact means.unique means'

/-! ## Idle tokens -/

/-- Idle tokens that are put in change nothing in what is read. -/
theorem foldl_add_padded (padding : Padded tokens padded) (r : Reading) :
    padded.foldl Reading.add r = tokens.foldl Reading.add r := by
  induction padding generalizing r with
  | nil => rfl
  | keep chars _ ih => exact ih (r.add chars)
  | insert idle _ ih => rw [List.foldl_cons, add_idle idle, ih]

/-- The address that a topic names is the one that its tokens say, the last ones of each kind, and
    stays the same however many idle tokens are put in between. -/
theorem last_tokens_count :
    (∀ (topic : String) (a : Address),
        ofTopic topic = a ↔ Means (Text.splitAt '/' topic.toList) a) ∧
      ∀ topic padded : String,
        Padded (Text.splitAt '/' topic.toList) (Text.splitAt '/' padded.toList) →
          ofTopic padded = ofTopic topic := by
  refine ⟨fun topic a => ofTopic_eq_iff_means, fun topic padded padding => ?_⟩
  rw [ofTopic, ofTopic, foldl_add_padded padding]

/-- An unknown name, no name at all and an unknown kind, between and behind the tokens of an
    application. -/
theorem last_tokens_count_between_others :
    let topic := "pt:j1/mt:evt/rt:app/rn:tpflow/ad:1"
    let padded := "pt:j1/mt:evt/xx:mt:cmd/rt:app/garbage/rn:tpflow/ad:1/mt:bogus/"
    Padded (Text.splitAt '/' topic.toList) (Text.splitAt '/' padded.toList) ∧
      Means (Text.splitAt '/' padded.toList) (app .evt "tpflow" "1") ∧
      ofTopic padded = ofTopic topic := by
  intro topic padded
  have unknown : Idle (token "xx" "mt:cmd") := .unknown (by decide) (by decide)
  have unnamed : Idle "garbage".toList := .unnamed (by decide)
  have bogus : Idle (token "mt" "bogus") := .msgType fun t => by cases t <;> decide
  have empty : Idle [] := .unnamed (by decide)
  have tokens : Text.splitAt '/' topic.toList =
      [token "pt" "j1", token "mt" "evt", token "rt" "app", token "rn" "tpflow",
        token "ad" "1"] := by decide
  have more : Text.splitAt '/' padded.toList =
      [token "pt" "j1", token "mt" "evt", token "xx" "mt:cmd", token "rt" "app", "garbage".toList,
        token "rn" "tpflow", token "ad" "1", token "mt" "bogus", []] := by decide
  have padding : Padded (Text.splitAt '/' topic.toList) (Text.splitAt '/' padded.toList) := by
    rw [tokens, more]
    exact .keep _ (.keep _ (.insert unknown (.keep _ (.insert unnamed (.keep _ (.keep _
      (.insert bogus (.insert empty .nil))))))))
  exact ⟨padding, (last_tokens_count.1 _ _).1 (by decide), last_tokens_count.2 _ _ padding⟩

/-- The second service token gives the service another name, and does not start anew. -/
example : ofTopic "ad:1/sv:a/ad:2/sv:b" =
    { resourceAddress := "1", serviceName := "b", serviceAddress := "2" } := by
  decide

end Address

end HomeBus
