import ProviderRouting.Proofs.Glob.Unicode
import ProviderRouting.Proofs.Route.Winner
import ProviderRouting.Service.Rules

/-!
# A request's group and its catch-all

`Group.ofPath` puts a path in the OpenAI group when it is `/api/openai` or lies below it, in the
Anthropic group likewise, and in the generic group otherwise. A group's catch-all, its root
followed by `/*`, matches exactly the paths that begin with the root and a slash
(`accepts_literal_star_iff`). The two agree on every path but the root itself
(`ofPath_eq_iff_accepts`): `/api/openai` is an OpenAI request that the OpenAI catch-all does not
match (`root_escapes_catchAll`).

Below the root, an enabled default keeps a request in its own group: routing never falls back to
the generic group (`route_stays_in_group`).
-/

namespace ProviderRouting

open ProviderRouting.Glob

/-! ## Catch-all patterns -/

theorem accepts_literal_star_iff {l : String} (hl : '*' ∉ l.toList) (v : String) :
    accepts (l ++ "*") v = true ↔ l.toList <+: v.toList := by
  have hstar : star ∉ bytes l.toList := fun h => by
    obtain ⟨c, hc, hcs⟩ := List.mem_flatMap.1 h
    exact hl (star_mem_utf8EncodeChar.1 hcs ▸ hc)
  have hpat : bytes (l ++ "*").toList = bytes l.toList ++ [star] := by
    rw [String.toList_append, bytes_append]
    rfl
  rw [accepts, toList_toUTF8, toList_toUTF8, scan_iff (show Aligned none _ from trivial)]
  simp only [Later, or_false]
  change Fits star (bytes (l ++ "*").toList) (bytes v.toList) ↔ _
  rw [hpat, fits_literal_append_iff hstar]
  constructor
  · rintro ⟨v', hv, -⟩
    obtain ⟨m', hm, -⟩ := prefix_of_bytes hv.symm
    exact ⟨m', hm.symm⟩
  · rintro ⟨m', hm⟩
    refine ⟨bytes m', by rw [← hm, bytes_append], fits_star_iff.2 ⟨bytes m', [], by simp, .nil⟩⟩

def Group.root : Group → String
  | .openai => "/api/openai"
  | .anthropic => "/api/anthropic"
  | .generic => "/api"

theorem Group.catchAll_eq (g : Group) : g.catchAll = (g.root ++ "/") ++ "*" := by
  cases g <;> rfl

theorem Group.star_not_mem_root (g : Group) : '*' ∉ (g.root ++ "/").toList := by
  cases g <;> decide

theorem accepts_catchAll_iff (g : Group) (p : String) :
    accepts g.catchAll p = true ↔ (g.root ++ "/").toList <+: p.toList := by
  rw [Group.catchAll_eq]
  exact accepts_literal_star_iff g.star_not_mem_root p

/-! ## Paths under a root -/

theorem isUnder_iff (path pre : String) :
    isUnder path pre = true ↔ path = pre ∨ (pre ++ "/").toList <+: path.toList := by
  rw [isUnder, Bool.and_eq_true, List.isPrefixOf_iff_prefix, String.toList_append]
  constructor
  · rintro ⟨⟨rest, hrest⟩, hnext⟩
    rw [← hrest, ← String.length_toList, List.drop_left] at hnext
    cases rest with
    | nil => exact .inl (String.toList_inj.1 (by rw [← hrest, List.append_nil]))
    | cons c rest =>
      have hc : c = '/' := of_decide_eq_true hnext
      exact .inr ⟨rest, by rw [← hrest, hc]; simp⟩
  · rintro (rfl | ⟨rest, hrest⟩)
    · refine ⟨List.prefix_refl _, ?_⟩
      rw [← String.length_toList, List.drop_length]
    · have hp : path.toList = pre.toList ++ '/' :: rest := by rw [← hrest]; simp
      refine ⟨⟨'/' :: rest, hp.symm⟩, ?_⟩
      rw [hp, ← String.length_toList, List.drop_left]
      rfl

theorem not_under_both (path : String) :
    ¬ (isUnder path Group.openai.root = true ∧ isUnder path Group.anthropic.root = true) := by
  rintro ⟨ho, ha⟩
  have hpre : ∀ g : Group, isUnder path g.root = true → g.root.toList <+: path.toList := by
    intro g h
    rcases (isUnder_iff path g.root).1 h with rfl | hp
    · exact List.prefix_refl _
    · rw [String.toList_append] at hp
      exact (List.prefix_append _ _).trans hp
  rcases List.prefix_or_prefix_of_prefix (hpre _ ho) (hpre _ ha) with h | h
  · exact absurd h (by decide)
  · exact absurd h (by decide)

theorem ofPath_eq_iff_isUnder {g : Group} (hg : g ≠ .generic) (path : String) :
    Group.ofPath path = g ↔ isUnder path g.root = true := by
  have hboth := not_under_both path
  cases g with
  | openai =>
    unfold Group.ofPath
    split
    · simp_all [Group.root]
    · split <;> simp_all [Group.root]
  | anthropic =>
    unfold Group.ofPath
    split
    · simp_all [Group.root]
    · split <;> simp_all [Group.root]
  | generic => exact absurd rfl hg

theorem ofPath_eq_iff_accepts {g : Group} (hg : g ≠ .generic) (path : String) :
    Group.ofPath path = g ↔ accepts g.catchAll path = true ∨ path = g.root := by
  rw [ofPath_eq_iff_isUnder hg, isUnder_iff, accepts_catchAll_iff, or_comm]

/-- The OpenAI root is an OpenAI request that the OpenAI catch-all does not match. -/
theorem root_escapes_catchAll :
    Group.ofPath "/api/openai" = .openai ∧ accepts Group.openai.catchAll "/api/openai" = false := by
  refine ⟨(ofPath_eq_iff_isUnder (by decide) _).2 ((isUnder_iff _ _).2 (.inl rfl)), ?_⟩
  rw [Bool.eq_false_iff, ne_eq, accepts_catchAll_iff]
  decide

/-! ## Routing below the root -/

theorem route_stays_in_group {rules : List Rule} {g : Group} {path : String}
    (model : Option String) {d : Rule} (hd : d ∈ rules) (hdef : isDefaultOf g d = true)
    (he : d.enabled = true) (ha : accepts g.catchAll path = true) :
    ∃ hit, (RouteTable.ofRules rules).route g path model = some hit ∧ hit.viaGeneric = false := by
  simp only [isDefaultOf, Bool.and_eq_true, beq_iff_eq] at hdef
  obtain ⟨⟨hg, hk⟩, hp⟩ := hdef
  have hscope : d.scope = ⟨g, .path⟩ := by simp [Rule.scope, hg, hk]
  have htier : (groupTiers g path model)[(groupTiers g path model).length - 1]? =
      some (d.scope, path) := by
    rw [hscope]
    cases model <;> simp [groupTiers]
  have hc : Catches (groupTiers g path model) d ((groupTiers g path model).length - 1) :=
    ⟨he, path, htier, hp ▸ ha⟩
  obtain ⟨r, hr⟩ := Option.ne_none_iff_exists'.1 (firstIn_ne_none hd hc)
  rw [← matchIn_eq_firstIn] at hr
  exact ⟨_, by rw [RouteTable.route, hr]; rfl, rfl⟩

/-- A request's group agrees with the group's catch-all on every path but the root: an OpenAI or
Anthropic path is one the catch-all matches or the root itself; and below the root, while the
group has an enabled default, routing never falls back to the generic group. -/
theorem ofPath_agrees_with_catchAll (path : String) (g : Group) (hg : g ≠ .generic) :
    (Group.ofPath path = g ↔ accepts g.catchAll path = true ∨ path = g.root) ∧
    ∀ (rules : List Rule) (model : Option String), Group.ofPath path = g → path ≠ g.root →
      (∃ d ∈ rules, isDefaultOf g d = true ∧ d.enabled = true) →
      ∃ hit, (RouteTable.ofRules rules).route (Group.ofPath path) path model = some hit ∧
        hit.viaGeneric = false := by
  refine ⟨ofPath_eq_iff_accepts hg path, ?_⟩
  rintro rules model hpath hroot ⟨d, hd, hdef, he⟩
  have ha : accepts g.catchAll path = true :=
    ((ofPath_eq_iff_accepts hg path).1 hpath).resolve_right hroot
  rw [hpath]
  exact route_stays_in_group model hd hdef he ha

/-- A chat request below the OpenAI root, with the OpenAI default enabled, stays in the OpenAI
group. -/
theorem chat_request_stays_in_group :
    let default : Rule :=
      { id := "d", kind := .path, group := .openai, provider := "p1", pattern := "/api/openai/*",
        rewrite := none, priority := 1, enabled := true, createdAt := ⟨0, 0⟩,
        updatedAt := ⟨0, 0⟩ }
    Group.openai ≠ .generic ∧
      ∃ hit, (RouteTable.ofRules [default]).route (Group.ofPath "/api/openai/v1/chat")
        "/api/openai/v1/chat" none = some hit ∧ hit.viaGeneric = false := by
  intro default
  have h := ofPath_agrees_with_catchAll "/api/openai/v1/chat" .openai (by decide)
  have ha : accepts Group.openai.catchAll "/api/openai/v1/chat" = true :=
    (accepts_catchAll_iff _ _).2 (by decide)
  exact ⟨by decide, h.2 [default] none (h.1.2 (.inl ha)) (by decide)
    ⟨default, List.mem_singleton_self _, rfl, rfl⟩⟩

end ProviderRouting
