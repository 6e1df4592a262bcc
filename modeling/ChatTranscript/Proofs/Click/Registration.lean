import ChatTranscript.Proofs.Binary64.Layout
import ChatTranscript.Template.Render

/-!
# Registering a click handler

A registration asks for a handler to be bound, under an id that is given or under a new one. New ids
are drawn until one is not bound yet. As long as no suffix comes twice, the draws end: each id that
is bound already is one of the entries, and different draws meet different entries.

## Main definitions

* `Click.Request`: what a registration asks for.
* `Click.Registry.Draws`: which draw is the first to give an unbound id.
* `Click.Registry.grant`: a registration that is carried out.

## Main statements

* `Click.Registry.newId_draws`: a new id is the first one drawn that is not bound.
* `Click.Registry.get?_put`: a registry is a map from ids to handlers.
* `Click.Registry.register_eq`, `Template.registerHandler_cases`: both ways of registering carry out
  what is asked for.
-/

namespace ChatTranscript

namespace Click

/-! ## generated ids -/

namespace IdSource

variable {source : IdSource} {m n count : Nat}

theorem id_eq (source : IdSource) (n : Nat) : source.id n =
    "handler_".toList ++ (Text.ofNat (source.milliseconds n) ++ '_' :: source.suffix n) := by
  have mark : "_".toList = ['_'] := rfl
  unfold IdSource.id
  rw [mark, List.append_assoc, List.append_assoc, List.singleton_append]

/-- The suffix is what follows the underscore after the digits of the time. -/
theorem suffix_eq_of_id_eq (same : source.id m = source.id n) :
    source.suffix m = source.suffix n := by
  have digits (n : Nat) : ∀ c ∈ Text.ofNat (source.milliseconds n), (c != '_') = true :=
    (Text.isDigits_ofNat _).ne (by decide)
  rw [id_eq, id_eq] at same
  have rest := congrArg (List.dropWhile (· != '_')) (List.append_cancel_left same)
  rw [List.dropWhile_append_of_pos (digits m), List.dropWhile_append_of_pos (digits n)] at rest
  simpa using rest

/-- The first suffixes of a source differ from each other. -/
def DistinctBelow (source : IdSource) (count : Nat) : Prop :=
  ∀ i < count, ∀ j < count, source.suffix i = source.suffix j → i = j

theorem DistinctBelow.mono (distinct : source.DistinctBelow count) (fewer : n ≤ count) :
    source.DistinctBelow n := fun i hi j hj =>
  distinct i (hi.trans_le fewer) j (hj.trans_le fewer)

end IdSource

namespace Registry

variable {source : IdSource} {registry : Registry} {id other : HandlerId} {handler : Handler}

/-! ## entries -/

theorem contains_iff : registry.contains id = true ↔ id.key ∈ registry.entries.map (·.1.key) := by
  simp [contains, get?]

/-- Binding an id leaves the handlers of all other ids as they are. -/
theorem get?_put (entries : List (HandlerId × Handler)) (drawn : Nat) :
    get? ⟨put id handler entries, drawn⟩ other =
      if other.key = id.key then some handler else get? ⟨entries, drawn⟩ other := by
  unfold get?
  induction entries with
  | nil =>
    by_cases same : other.key = id.key
    · simp [put, same]
    · simp [put, same, Ne.symm same]
  | cons entry rest ih =>
    rw [put]
    by_cases here : entry.1.key = id.key
    · rw [if_pos here]
      by_cases same : other.key = id.key
      · simp [same, here]
      · simp [same, here, Ne.symm same]
    · rw [if_neg here, List.find?_cons, List.find?_cons]
      by_cases found : entry.1.key = other.key
      · have different : other.key ≠ id.key := found ▸ here
        simp [found, different]
      · simpa only [found, decide_false] using ih

theorem put_eq_append (free : registry.contains id = false) :
    put id handler registry.entries = registry.entries ++ [(id, handler)] := by
  have missing : id.key ∉ registry.entries.map (·.1.key) := by
    rw [← contains_iff, free]
    decide
  generalize registry.entries = entries at missing
  induction entries with
  | nil => rfl
  | cons entry rest ih =>
    obtain ⟨here, later⟩ : id.key ≠ entry.1.key ∧ id.key ∉ rest.map (·.1.key) := by
      simpa using missing
    rw [put, if_neg (Ne.symm here), ih later, List.cons_append]

/-! ## drawing -/

/-- The first draw that gives an unbound id comes after `k` others; there are at most as many draws
before it as there are entries. -/
structure Draws (source : IdSource) (registry : Registry) (k : Nat) : Prop where
  few : k ≤ registry.entries.length
  taken : ∀ j < k, registry.contains (.text (source.id (registry.drawn + j))) = true
  free : registry.contains (.text (source.id (registry.drawn + k))) = false

theorem drawFresh_eq (source : IdSource) (registry : Registry) (tries : Nat) :
    ∃ k ≤ tries, drawFresh source registry tries =
        (source.id (registry.drawn + k), { registry with drawn := registry.drawn + k + 1 }) ∧
      (∀ j < k, registry.contains (.text (source.id (registry.drawn + j))) = true) ∧
      (k < tries → registry.contains (.text (source.id (registry.drawn + k))) = false) := by
  induction tries generalizing registry with
  | zero => exact ⟨0, le_rfl, rfl, by simp, by simp⟩
  | succ tries ih =>
    rw [drawFresh]
    cases bound : registry.contains (.text (source.id registry.drawn)) with
    | false => exact ⟨0, by omega, by simp, by simp, fun _ => bound⟩
    | true =>
      obtain ⟨k, few, drawn, taken, free⟩ := ih { registry with drawn := registry.drawn + 1 }
      simp only [show registry.drawn + 1 + k = registry.drawn + (k + 1) by omega] at drawn free
      refine ⟨k + 1, by omega, by simp only [if_pos, drawn], fun j before => ?_, fun more =>
        free (by omega)⟩
      cases j with
      | zero => exact bound
      | succ j =>
        rw [show registry.drawn + (j + 1) = registry.drawn + 1 + j by omega]
        exact taken j (by omega)

/-- Not all of the ids that are drawn are bound: there are more of them than entries. -/
theorem exists_unbound (distinct : source.DistinctBelow
    (registry.drawn + registry.entries.length + 1)) :
    ∃ k ≤ registry.entries.length,
      registry.contains (.text (source.id (registry.drawn + k))) = false := by
  by_contra none
  push Not at none
  let keys := (List.range (registry.entries.length + 1)).map fun k =>
    (HandlerId.text (source.id (registry.drawn + k))).key
  have nodup : keys.Nodup := by
    refine List.Nodup.map_on (fun i hi j hj same => ?_) List.nodup_range
    rw [List.mem_range] at hi hj
    have := distinct _ (by omega) _ (by omega)
      (IdSource.suffix_eq_of_id_eq (HandlerKey.text.inj same))
    omega
  have bound : keys ⊆ registry.entries.map (·.1.key) := by
    intro key member
    obtain ⟨k, few, rfl⟩ := List.mem_map.1 member
    rw [List.mem_range] at few
    exact contains_iff.1 (Bool.eq_true_of_not_eq_false (none k (by omega)))
  have := nodup.length_le_of_subset bound
  simp only [keys, List.length_map, List.length_range] at this
  omega

/-- A new id is the first one drawn that is not bound, if no suffix comes twice. -/
theorem newId_draws (distinct : source.DistinctBelow (newId source registry).2.drawn) :
    ∃ k, Draws source registry k ∧ newId source registry =
      (source.id (registry.drawn + k), { registry with drawn := registry.drawn + k + 1 }) := by
  obtain ⟨k, few, drawn, taken, free⟩ := drawFresh_eq source registry registry.entries.length
  refine ⟨k, ⟨few, taken, ?_⟩, drawn⟩
  obtain less | rfl := few.lt_or_eq
  · exact free less
  · -- all other draws gave bound ids, so the last one did not
    rw [newId, drawn] at distinct
    obtain ⟨last, few, unbound⟩ := exists_unbound distinct
    obtain less | rfl := few.lt_or_eq
    · simp [taken last less] at unbound
    · exact unbound

end Registry

/-! ## requests -/

/-- A registration that is asked for: the handler, and the id if one is given. -/
structure Request where
  id : Option HandlerId
  handler : Handler

/-- Under an unknown name nothing is asked for. -/
def Request.ofName? (name : Text) (payload : Json) (id : Option HandlerId) : Option Request :=
  (Action.named? (Text.strip name)).map fun action =>
    ⟨id.filter HandlerId.isGiven, ⟨action, payload⟩⟩

/-- The registration that a context asks for in its overwrite section. -/
def Request.ofContext? (context : Json) : Option Request :=
  match context.get? "overwrite".toList with
  | some (.obj overwrite) => do
    let name ← Json.truthy? (Fields.get? "clickHandler".toList overwrite)
    let id ← (HandlerId.ofJson? (Fields.get? "clickHandlerId".toList overwrite)).toOption
    Request.ofName? name.asText context id
  | _ => none

namespace Registry

variable {source : IdSource} {registry : Registry} {request : Request}

/-- The id of a registration, with the registry after the draws that it took. -/
def choose (source : IdSource) (request : Request) (registry : Registry) : HandlerId × Registry :=
  match request.id with
  | some id => (id, registry)
  | none => ((.text (newId source registry).1), (newId source registry).2)

/-- A registration that is carried out, with the id it is bound to. -/
def grant (source : IdSource) (request : Request) (registry : Registry) : HandlerId × Registry :=
  ((choose source request registry).1, { (choose source request registry).2 with
    entries := put (choose source request registry).1 request.handler registry.entries })

@[simp] theorem newId_entries : (newId source registry).2.entries = registry.entries := by
  obtain ⟨k, -, drawn, -⟩ := drawFresh_eq source registry registry.entries.length
  rw [newId, drawn]

theorem drawn_le_newId : registry.drawn < (newId source registry).2.drawn := by
  obtain ⟨k, -, drawn, -⟩ := drawFresh_eq source registry registry.entries.length
  rw [newId, drawn]
  dsimp only
  omega

theorem register_eq (name : Text) (payload : Json) (id : Option HandlerId) :
    registry.register source name payload id =
      match Request.ofName? name payload id with
      | none => (none, registry)
      | some request => ((grant source request registry).1, (grant source request registry).2) := by
  unfold register Request.ofName?
  cases Action.named? (Text.strip name) with
  | none => rfl
  | some action =>
    cases given : id.filter HandlerId.isGiven with
    | some id => rfl
    | none => simp [grant, choose]

/-- Given ids leave the draws as they are. -/
theorem grant_given {id : HandlerId} {handler : Handler} :
    grant source ⟨some id, handler⟩ registry =
      (id, { registry with entries := put id handler registry.entries }) := rfl

/-- A handler without an id becomes a new entry under the first unbound id. -/
theorem grant_drawn {handler : Handler} {k : Nat} (draws : Draws source registry k)
    (new : newId source registry =
      (source.id (registry.drawn + k), { registry with drawn := registry.drawn + k + 1 })) :
    grant source ⟨none, handler⟩ registry = (.text (source.id (registry.drawn + k)),
      ⟨registry.entries ++ [(.text (source.id (registry.drawn + k)), handler)],
        registry.drawn + k + 1⟩) := by
  simp [grant, choose, new, put_eq_append draws.free]

theorem drawn_le_grant : registry.drawn ≤ (grant source request registry).2.drawn := by
  unfold grant choose
  cases request.id with
  | some id => exact le_rfl
  | none => exact drawn_le_newId.le

theorem get?_grant {other : HandlerId} :
    (grant source request registry).2.get? other =
      if other.key = (grant source request registry).1.key then some request.handler
      else registry.get? other :=
  get?_put registry.entries _

end Registry

end Click

namespace Template

open Click

/-- What a context asks for is carried out; a context that asks for nothing leaves every registry as
it is, with the same outcome. -/
theorem registerHandler_cases (source : IdSource) (context : Json) :
    (∃ request, Request.ofContext? context = some request ∧
      ∀ registry, registerHandler source context registry =
        (.ok (some (registry.grant source request).1), (registry.grant source request).2)) ∨
    Request.ofContext? context = none ∧ ∃ outcome, outcome.toOption.join = none ∧
      ∀ registry, registerHandler source context registry = (outcome, registry) := by
  unfold registerHandler Request.ofContext?
  cases context with
  | obj fields =>
    rw [Json.entry, Json.get?]
    cases Fields.get? "overwrite".toList fields with
    | none => exact .inr ⟨rfl, _, rfl, fun _ => rfl⟩
    | some value =>
      cases value with
      | obj overwrite =>
        dsimp only
        cases Json.truthy? (Fields.get? "clickHandler".toList overwrite) with
        | none => exact .inr ⟨rfl, _, rfl, fun _ => rfl⟩
        | some name =>
          dsimp only
          cases named : Action.named? (Text.strip name.asText) with
          | none =>
            refine .inr ⟨?_, .ok none, rfl, fun _ => rfl⟩
            cases HandlerId.ofJson? (Fields.get? "clickHandlerId".toList overwrite) <;>
              simp [Request.ofName?, named, Except.toOption]
          | some action =>
            cases HandlerId.ofJson? (Fields.get? "clickHandlerId".toList overwrite) with
            | error fault => exact .inr ⟨rfl, _, rfl, fun _ => rfl⟩
            | ok id =>
              refine .inl ⟨⟨id.filter HandlerId.isGiven, action, .obj fields⟩, ?_,
                fun registry => ?_⟩
              · simp [Request.ofName?, named, Except.toOption]
              · simp only [Registry.register_eq, Request.ofName?, named, Option.map_some]
                rfl
      | null | bool | int | float | str | arr => exact .inr ⟨rfl, _, rfl, fun _ => rfl⟩
  | null | bool | int | float | str | arr => exact .inr ⟨rfl, _, rfl, fun _ => rfl⟩

/-- A render leaves the registry that its registration leaves. -/
theorem render_snd (source : IdSource) (template : Text) (context : Json) (registry : Registry) :
    (render source template context registry).2 =
      (registerHandler source context registry).2 := by
  rw [render]
  split
  · rename_i registered
    rw [registered]
  · rename_i registered
    rw [registered]

end Template

end ChatTranscript
