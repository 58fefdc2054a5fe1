import ProviderRouting.Proofs.Time.Rfc3339
import ProviderRouting.Proofs.Wire.Records
import ProviderRouting.Requests.Session

/-!
# Wire forms read back

Rules, new rules, positions, provider events, removals and reports are written as JSON
values with camelCase member names, kinds and groups by name, a position as `"last"` or
`{"before": {"ruleId": id}}` and an event with its variant in a `type` member beside its own
fields. Each decoder reads back what its encoder writes (`wire_forms_read_back`), so no two
values share a wire form.

A rule needs two things of its data to be written faithfully: its times must be ones a date
and time value holds, of a year from 0 to 9999, so that their RFC 3339 text reads back, and its
priority must be a 32-bit integer (`Rule.Representable`). The other forms read back whole.

Each proof has the same three parts: the encoder's object, its members sorted by key (the
order of two keys decided by evaluation); every member passes its field's check and every
required field is there (`Decoder.record_obj`); and the record built from the members is the
value written.
-/

namespace ProviderRouting

open ProviderRouting.Json ProviderRouting.Time ProviderRouting.Requests

/-! ## Names and times -/

@[simp] theorem RuleKind.decode_name (k : RuleKind) : RuleKind.decode (.str k.name) = .ok k := by
  cases k <;> rfl

@[simp] theorem Group.decode_name (g : Group) : Group.decode (.str g.name) = .ok g := by
  cases g <;> rfl

theorem Instant.decode_rfc3339 {t : Instant} (ht : t.Holdable) (hy : 0 ≤ t.year ∧ t.year ≤ 9999) :
    Instant.decode (.str t.rfc3339) = .ok t := by
  simp [Instant.decode, parse_rfc3339 t ht hy]

instance (t : Instant) : Decidable t.Holdable := inferInstanceAs (Decidable (_ ∧ _))

def Rule.Representable (r : Rule) : Prop :=
  r.createdAt.Holdable ∧ 0 ≤ r.createdAt.year ∧ r.createdAt.year ≤ 9999 ∧
    r.updatedAt.Holdable ∧ 0 ≤ r.updatedAt.year ∧ r.updatedAt.year ≤ 9999 ∧
    -2147483648 ≤ r.priority ∧ r.priority ≤ 2147483647

instance (r : Rule) : Decidable r.Representable := inferInstanceAs (Decidable (_ ∧ _))

/-! ## The objects written -/

theorem Rule.toValue_eq (r : Rule) : r.toValue = .obj [("apiGroup", .str r.group.name),
    ("createdAt", .str r.createdAt.rfc3339), ("enabled", .bool r.enabled), ("id", .str r.id),
    ("matchPattern", .str r.pattern), ("modelRewrite", Value.ofOption r.rewrite),
    ("priority", Value.int r.priority), ("providerId", .str r.provider),
    ("ruleType", .str r.kind.name), ("updatedAt", .str r.updatedAt.rfc3339)] := by
  simp (disch := decide) only [Rule.toValue, Value.record, List.foldl, Object.insert_nil,
    Object.insert_cons_of_lt, Object.insert_cons_of_gt]

theorem NewRule.toValue_eq (n : NewRule) : n.toValue = .obj [("apiGroup", .str n.group.name),
    ("enabled", .bool n.enabled), ("matchPattern", .str n.pattern),
    ("modelRewrite", Value.ofOption n.rewrite), ("position", n.position.toValue),
    ("providerId", .str n.provider), ("ruleType", .str n.kind.name)] := by
  simp (disch := decide) only [NewRule.toValue, Value.record, List.foldl, Object.insert_nil,
    Object.insert_cons_of_lt, Object.insert_cons_of_gt]

theorem Position.toValue_before (id : String) :
    (Position.before id).toValue = .obj [("before", .obj [("ruleId", .str id)])] := by
  simp only [Position.toValue, Value.record, List.foldl, Object.insert_nil]

theorem removalValue_eq (r : Removal) : removalValue r =
    .obj [("providerId", .str r.provider), ("rulesToDrop", .arr (r.rulesToDrop.map .str))] := by
  simp (disch := decide) only [removalValue, idsValue, Value.record, List.foldl, Object.insert_nil,
    Object.insert_cons_of_gt]

theorem reportValue_eq (r : Report) : reportValue r =
    .obj [("dangling", .arr (r.dangling.map .str)), ("dropped", .arr (r.dropped.map .str)),
      ("reassigned", .arr (r.reassigned.map .str))] := by
  simp (disch := decide) only [reportValue, idsValue, Value.record, List.foldl, Object.insert_nil,
    Object.insert_cons_of_lt, Object.insert_cons_of_gt]

theorem Event.toValue_added (p : String) :
    (Event.added p).toValue = .obj [("providerId", .str p), ("type", .str "added")] := by
  simp (disch := decide) only [Event.toValue, Value.record, List.foldl, Object.insert_nil,
    Object.insert_cons_of_lt]

theorem Event.toValue_deleted (r : Removal) : (Event.deleted r).toValue =
    .obj [("providerId", .str r.provider), ("rulesToDrop", .arr (r.rulesToDrop.map .str)),
      ("type", .str "deleted")] := by
  simp (disch := decide) only [Event.toValue, Value.record, List.foldl, Object.insert_nil,
    Object.insert_cons_of_lt, Object.insert_cons_of_gt]

/-! ## Reading them back -/

theorem Rule.decode_toValue (r : Rule) (h : r.Representable) : Rule.decode r.toValue = .ok r := by
  obtain ⟨hch, hcy0, hcy1, huh, huy0, huy1, hp⟩ := h
  have hc := Instant.decode_rfc3339 hch ⟨hcy0, hcy1⟩
  have hu := Instant.decode_rfc3339 huh ⟨huy0, huy1⟩
  have hi := Decoder.i32_int hp
  rw [Rule.toValue_eq, Rule.decode, Decoder.record_obj]
  · simp [need, either, maybe, List.lookup_cons, hc, hu, hi, bind, Except.bind, pure, Except.pure]
  · simp [Rule.fields, Field.of, hc, hu, hi]
  · simp [Rule.fields]

theorem Position.decode_toValue (p : Position) : Position.decode p.toValue = .ok p := by
  cases p with
  | last => rfl
  | before id =>
    have hrec : Decoder.record "struct variant InsertPosition::Before" Position.beforeFields
        (fun m => Position.before <$> need m "ruleId" Decoder.string)
        (.obj [("ruleId", .str id)]) = .ok (.before id) := by
      rw [Decoder.record_obj]
      · rfl
      · simp [Position.beforeFields, Field.of]
      · simp [Position.beforeFields]
    simp [Position.toValue_before, Position.decode, variantParts, variantOf, List.lookup_cons, hrec,
      bind, Except.bind]

theorem NewRule.decode_toValue (n : NewRule) : NewRule.decode n.toValue = .ok n := by
  have hpos := Position.decode_toValue n.position
  rw [NewRule.toValue_eq, NewRule.decode, Decoder.record_obj]
  · simp [need, either, maybe, List.lookup_cons, hpos, bind, Except.bind, pure, Except.pure]
  · simp [NewRule.fields, Field.of, hpos]
  · simp [NewRule.fields]

theorem Removal.decode_removalValue (r : Removal) : Removal.decode (removalValue r) = .ok r := by
  rw [removalValue_eq, Removal.decode, Decoder.record_obj]
  · simp [need, either, List.lookup_cons, bind, Except.bind, pure, Except.pure]
  · simp [Removal.fields, Field.of]
  · simp [Removal.fields]

theorem Report.decode_reportValue (r : Report) : Report.decode (reportValue r) = .ok r := by
  rw [reportValue_eq, Report.decode, Decoder.record_obj]
  · simp [need, List.lookup_cons, bind, Except.bind, pure, Except.pure]
  · simp [Report.fields, Field.of]
  · simp [Report.fields]

theorem Event.decode_toValue (e : Event) : Event.decode e.toValue = .ok e := by
  cases e with
  | added p =>
    -- the type member is read first, and the fields beside it make the variant's record
    have hrec : Decoder.record "struct variant ProviderEvent::Added" Event.addedFields
        (fun m => Event.added <$> need m "providerId" Decoder.string)
        (.obj [("providerId", .str p)]) = .ok (.added p) := by
      rw [Decoder.record_obj]
      · rfl
      · simp [Event.addedFields, Field.of]
      · simp [Event.addedFields]
    simp [Event.toValue_added, Event.decode, List.lookup_cons, Event.tag, variantOf, Event.body,
      hrec, bind, Except.bind]
  | deleted r =>
    -- without its type member, a deletion's object is the removal's own
    simp [Event.toValue_deleted, Event.decode, List.lookup_cons, Event.tag, variantOf, Event.body,
      ← removalValue_eq, Removal.decode_removalValue, bind, Except.bind, Functor.map, Except.map]

/-- The wire forms: each decoder reads back what its encoder writes, rules whenever their
times and priority fit, so each encoder is injective; and the objects written have the
camelCase member names, kinds and groups by name, a position as `"last"` or
`{"before": {"ruleId": id}}`, and an event with its `type` beside its fields. -/
theorem wire_forms_read_back :
    ReadsBack Rule.decode Rule.toValue Rule.Representable ∧
    ReadsBack NewRule.decode NewRule.toValue (fun _ => True) ∧
    ReadsBack Position.decode Position.toValue (fun _ => True) ∧
    ReadsBack Event.decode Event.toValue (fun _ => True) ∧
    ReadsBack Removal.decode removalValue (fun _ => True) ∧
    ReadsBack Report.decode reportValue (fun _ => True) ∧
    (∀ a b : Rule, a.Representable → b.Representable → a.toValue = b.toValue → a = b) ∧
    (∀ a b : NewRule, a.toValue = b.toValue → a = b) ∧
    (∀ a b : Position, a.toValue = b.toValue → a = b) ∧
    (∀ a b : Event, a.toValue = b.toValue → a = b) ∧
    (∀ a b : Removal, removalValue a = removalValue b → a = b) ∧
    (∀ a b : Report, reportValue a = reportValue b → a = b) ∧
    (∀ r : Rule, r.toValue = .obj [("apiGroup", .str r.group.name),
      ("createdAt", .str r.createdAt.rfc3339), ("enabled", .bool r.enabled), ("id", .str r.id),
      ("matchPattern", .str r.pattern), ("modelRewrite", Value.ofOption r.rewrite),
      ("priority", Value.int r.priority), ("providerId", .str r.provider),
      ("ruleType", .str r.kind.name), ("updatedAt", .str r.updatedAt.rfc3339)]) ∧
    (∀ n : NewRule, n.toValue = .obj [("apiGroup", .str n.group.name),
      ("enabled", .bool n.enabled), ("matchPattern", .str n.pattern),
      ("modelRewrite", Value.ofOption n.rewrite), ("position", n.position.toValue),
      ("providerId", .str n.provider), ("ruleType", .str n.kind.name)]) ∧
    [RuleKind.path, .model].map RuleKind.name = ["path", "model"] ∧
    [Group.openai, .anthropic, .generic].map Group.name = ["openai", "anthropic", "generic"] ∧
    Position.last.toValue = .str "last" ∧
    (∀ id, (Position.before id).toValue = .obj [("before", .obj [("ruleId", .str id)])]) ∧
    (∀ p, (Event.added p).toValue = .obj [("providerId", .str p), ("type", .str "added")]) ∧
    (∀ r, (Event.deleted r).toValue = .obj [("providerId", .str r.provider),
      ("rulesToDrop", .arr (r.rulesToDrop.map .str)), ("type", .str "deleted")]) ∧
    (∀ r, removalValue r = .obj [("providerId", .str r.provider),
      ("rulesToDrop", .arr (r.rulesToDrop.map .str))]) ∧
    (∀ r, reportValue r = .obj [("dangling", .arr (r.dangling.map .str)),
      ("dropped", .arr (r.dropped.map .str)), ("reassigned", .arr (r.reassigned.map .str))]) := by
  have hr : ReadsBack Rule.decode Rule.toValue Rule.Representable := Rule.decode_toValue
  have hn : ReadsBack NewRule.decode NewRule.toValue (fun _ => True) :=
    fun n _ => NewRule.decode_toValue n
  have hp : ReadsBack Position.decode Position.toValue (fun _ => True) :=
    fun p _ => Position.decode_toValue p
  have he : ReadsBack Event.decode Event.toValue (fun _ => True) :=
    fun e _ => Event.decode_toValue e
  have hm : ReadsBack Removal.decode removalValue (fun _ => True) :=
    fun r _ => Removal.decode_removalValue r
  have hs : ReadsBack Report.decode reportValue (fun _ => True) :=
    fun r _ => Report.decode_reportValue r
  refine ⟨hr, hn, hp, he, hm, hs, fun a b ha hb => hr.injective ha hb,
    fun a b => hn.injective trivial trivial, fun a b => hp.injective trivial trivial,
    fun a b => he.injective trivial trivial, fun a b => hm.injective trivial trivial,
    fun a b => hs.injective trivial trivial, Rule.toValue_eq, NewRule.toValue_eq, rfl, rfl, rfl,
    Position.toValue_before, Event.toValue_added, Event.toValue_deleted, removalValue_eq,
    reportValue_eq⟩

/-- A rule written on the first day of 2025 reads back. -/
theorem new_year_rule_reads_back :
    let r : Rule :=
      { id := "r1", kind := .path, group := .openai, provider := "p1", pattern := "/v1/*",
        rewrite := some "gpt-4o", priority := -3, enabled := true,
        createdAt := ⟨1735689600, 0⟩, updatedAt := ⟨1735689659, 1500000000⟩ }
    r.Representable ∧ Rule.decode r.toValue = .ok r :=
  ⟨by decide, wire_forms_read_back.1 _ (by decide)⟩

end ProviderRouting
