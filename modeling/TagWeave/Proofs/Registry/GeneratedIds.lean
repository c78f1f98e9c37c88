import TagWeave.Component.Declared
import TagWeave.Proofs.Registry.History

/-!
# Generated ids

Two ids generated in one history are equal only if one is of a registered name and the other of a
type without a name, whose ids begin like those of the name (`generated_ids_distinct`); the reserved
characters of a registry normally keep these apart. The counter of a name rises by the components
that need an id, whether a composition succeeds or not (`count_of_requests`).
-/

namespace TagWeave

/-! ## Equal ids -/

section
variable {r r' : Registry} {actions : List Action} {ids : List GeneratedId} {g : GeneratedId}
  {name : String}

/-- A name for which an id was generated is registered. -/
theorem History.isSome_find? (h : History r actions ids r') (hg : g ∈ ids)
    (horigin : g.origin = .registered name) : (r'.find? name).isSome := by
  have hcount : r'.count name = r.count name + (idsOf name ids).length := h.numbered.counter_eq name
  have hmem : g ∈ idsOf name ids := List.mem_filter.mpr ⟨hg, decide_eq_true horigin⟩
  have hpos : 0 < (idsOf name ids).length := List.length_pos_of_mem hmem
  cases hfind : r'.find? name with
  | some d => rfl
  | none =>
    have hzero : r'.count name = 0 := by rw [Registry.count, hfind]; rfl
    omega

theorem History.reserved_prefix (h : History r actions ids r') (hr : r.Named) (hg : g ∈ ids)
    (horigin : g.origin = .registered name) : r.reserved.toList <+: name.toList := by
  obtain ⟨d, hd⟩ := Option.isSome_iff_exists.mp (h.isSome_find? hg horigin)
  exact h.registry_extends.reserved ▸ (h.named hr).of_find? hd

end

/-- Of the ids generated in a history two are equal only if one is of a registered name and the
other of a type without a name, the name being the short name of the type in small letters. So all
differ if nothing that a type without a name is called begins with the reserved characters. -/
theorem generated_ids_distinct (r : Registry) (actions : List Action) :
    (∃ ids r', History r actions ids r') ∧ ∀ ids r', History r actions ids r' →
      ids.Pairwise (fun a b => a.id = b.id → a.origin.Clashes b.origin) ∧
      ∀ reserved, r = .withReserved reserved →
        (∀ g ∈ ids, ∀ typeName, g.origin = .unnamed typeName →
          ¬ r.reserved.toList <+: g.origin.stem.toList) →
        (ids.map GeneratedId.id).Nodup := by
  refine ⟨History.exists_history r actions, fun ids r' h => ⟨h.numbered.pairwise, ?_⟩⟩
  rintro reserved rfl hapart
  have hnamed {g : GeneratedId} {name : String} (hg : g ∈ ids)
      (horigin : g.origin = .registered name) := h.reserved_prefix .withReserved hg horigin
  refine List.pairwise_map.mpr (h.numbered.pairwise.imp_of_mem fun ha hb hclash heq => ?_)
  obtain ⟨name, typeName, rfl, ⟨hregistered, hunnamed⟩ | ⟨hunnamed, hregistered⟩⟩ := hclash heq
  · exact hapart _ hb typeName hunnamed (by rw [hunnamed]; exact hnamed ha hregistered)
  · exact hapart _ ha typeName hunnamed (by rw [hunnamed]; exact hnamed hb hregistered)

/-- A type is registered, one id is generated for its name and one for some component. -/
theorem exists_history_pair {r r₁ r₂ : Registry} {name css first second : String}
    {blueprint : Blueprint} {c : Component} {origin : Origin}
    (h₁ : (Action.registerAs name css blueprint).after r = r₁)
    (h₂ : (Action.nextId name).after r₁ = r₂)
    (hfirst : ((r₁.lookup? name).map fun d => (d.name, (r₁.nextId d).1)) = some (name, first))
    (hsecond : (r₂.origin c, (r₂.nextIdFor c).1) = (origin, second)) :
    ∃ r', History r [.registerAs name css blueprint, .nextId name, .nextIdFor c]
      [⟨.registered name, first⟩, ⟨origin, second⟩] r' := by
  subst h₁ h₂
  obtain ⟨d, hlookup, hd⟩ := Option.map_eq_some_iff.mp hfirst
  obtain ⟨hname, hfirst⟩ := Prod.mk.inj hd
  obtain ⟨rfl, rfl⟩ := Prod.mk.inj hsecond
  have hnext := Action.Generates.nextId hlookup
  rw [hname, hfirst] at hnext
  exact ⟨_, .cons .registerAs (.cons hnext (.cons .nextIdFor .nil))⟩

/-- The text component is registered, but not known by its name. -/
theorem generated_ids_distinct_text : ∃ ids r', History (.withReserved "ick-")
      [.registerAs "ick-text" "" TextComponent.blueprint, .nextId "ick-text",
        .nextIdFor (TextComponent.ofContent "")] ids r' ∧
    (∀ g ∈ ids, ∀ typeName, g.origin = .unnamed typeName →
      ¬ (Registry.withReserved "ick-").reserved.toList <+: g.origin.stem.toList) ∧
    ids.map GeneratedId.id = ["ick-text-0", "text-0"] ∧ (ids.map GeneratedId.id).Nodup := by
  obtain ⟨r', h⟩ : ∃ r', History (.withReserved "ick-")
      [.registerAs "ick-text" "" TextComponent.blueprint, .nextId "ick-text",
        .nextIdFor (TextComponent.ofContent "")]
      [⟨.registered "ick-text", "ick-text-0"⟩, ⟨.unnamed TextComponent.typeName, "text-0"⟩] r' :=
    exists_history_pair rfl rfl (by decide +kernel) (by decide +kernel)
  have hapart : ∀ g ∈ [GeneratedId.mk (.registered "ick-text") "ick-text-0",
      GeneratedId.mk (.unnamed TextComponent.typeName) "text-0"],
      ∀ typeName, g.origin = .unnamed typeName →
      ¬ (Registry.withReserved "ick-").reserved.toList <+: g.origin.stem.toList := by
    have htext : ¬ (Registry.withReserved "ick-").reserved.toList <+:
        (Origin.unnamed TextComponent.typeName).stem.toList := by decide +kernel
    exact List.forall_mem_cons.mpr ⟨nofun, List.forall_mem_singleton.mpr fun _ _ => htext⟩
  exact ⟨_, r', h, hapart, rfl, ((generated_ids_distinct _ _).2 _ _ h).2 "ick-" rfl hapart⟩

/-- With other reserved characters the name of a component may be that of a type: here two
components get one id. -/
theorem not_distinct_text : ∃ ids r', History (.withReserved "te")
      [.registerAs "text" "" (Declared.blueprint {} "" []), .nextId "text",
        .nextIdFor (TextComponent.ofContent "")] ids r' ∧
    ids.map GeneratedId.id = ["text-0", "text-0"] ∧ ¬ (ids.map GeneratedId.id).Nodup := by
  obtain ⟨r', h⟩ : ∃ r', History (.withReserved "te")
      [.registerAs "text" "" (Declared.blueprint {} "" []), .nextId "text",
        .nextIdFor (TextComponent.ofContent "")]
      [⟨.registered "text", "text-0"⟩, ⟨.unnamed TextComponent.typeName, "text-0"⟩] r' :=
    exists_history_pair rfl rfl (by decide +kernel) (by decide +kernel)
  exact ⟨_, r', h, rfl, by decide⟩

/-! ## Counters -/

/-- **What the counter of a name counts.** During a composition the counter rises by the components
of the name that are reached and have no id of their own: the one that is composed, and those of
tags. Their ids, in the order of the document, have the numbers from the counter on. It makes no
difference whether the composition succeeds: the component that stands too deep, or has no proper
opening tag, is reached, too, and is the last one. Over several compositions the numbers go on. -/
theorem count_of_requests (r : Registry) (name : String) :
    (∀ q : Request, ∃ visits, Listing (q.Reaches r) visits ∧
      (q.run r).2.count name =
        r.count name + (idsOf name (q.generated r visits)).length ∧
      (idsOf name (q.generated r visits)).map GeneratedId.id =
        (List.range' (r.count name) (idsOf name (q.generated r visits)).length).map
          (numberedId name) ∧
      ∀ f, (q.run r).1 = .error f → q.composer.RefusesLast
        ((q.outermost? r).toList ++ visits.map Visit.placement) f.error) ∧
    ∀ requests : List Request, ∃ ids r', History r (requests.map .request) ids r' ∧
      r'.count name = r.count name + (idsOf name ids).length ∧
      (idsOf name ids).map GeneratedId.id =
        (List.range' (r.count name) (idsOf name ids).length).map (numberedId name) := by
  refine ⟨fun q => ?_, fun requests => ?_⟩
  · obtain ⟨visits, hlist, hnumbered, -, hlast⟩ := q.exists_listing r
    exact ⟨visits, hlist, hnumbered.counter_eq name, hnumbered.ids_eq name, hlast⟩
  · obtain ⟨ids, r', h⟩ := History.exists_history r (requests.map .request)
    exact ⟨ids, r', h, h.numbered.counter_eq name, h.numbered.ids_eq name⟩

/-- A component that contains itself: the second one stands too deep and has an id all the same. -/
example : ((Request.fragment ⟨verbatim, { maxDepth := 2 }⟩ "<ick-loop/>" .null).run
      { reserved := "ick-"
        entries := [("ick-loop", ⟨"ick-loop", "", Declared.blueprint {} "<ick-loop/>" [], 0⟩)]
      }).2.count "ick-loop" = 2 := by
  decide +kernel

end TagWeave
