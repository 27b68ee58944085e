import BoardRules.LogRecord
import BoardRules.Proofs.Json.ReadBack
import BoardRules.Proofs.Store.ReadBack

/-! Lines of the log. A line is printable and is read back as the record that it was written for, of
whose attributes it shows those that are known. The other ones leave no trace on it. -/
namespace BoardRules

/-- How a known attribute is shown: a text error by its first characters, all else as it is. -/
inductive Kept : String × Json → String × Json → Prop where
  | error (s : String) :
    Kept ("error", .str s) ("error", .str (String.ofList (s.toList.take 500)))
  | asIs {e : String × Json} (h : ∀ s, e ≠ ("error", .str s)) : Kept e e

theorem kept_shownField (e : String × Json) : Kept e (shownField e) := by
  unfold shownField
  split
  · exact .error _
  · next h => exact .asIs h

theorem Kept.key_eq {e f : String × Json} (h : Kept e f) : f.1 = e.1 := by
  cases h <;> rfl

theorem Kept.eq_shownField {e f : String × Json} (h : Kept e f) : f = shownField e := by
  cases h with
  | error s => rfl
  | asIs h =>
    unfold shownField
    split
    · exact absurd rfl (h _)
    · rfl

theorem Kept.wellFormed {e f : String × Json} (h : Kept e f) (he : e.2.WellFormed) :
    f.2.WellFormed := by
  cases h with
  | error s => exact .str _
  | asIs _ => exact he

theorem shownFields_kept (attributes : Entries) :
    List.Forall₂ Kept (attributes.filter (knownFields.contains ·.1)) (shownFields attributes) :=
  List.forall₂_map_right_iff.mpr (List.forall₂_same.mpr fun e _ => kept_shownField e)

namespace LogRecord

variable {r s : LogRecord} {m : String}

/-- Two records that agree on all that a line tells. -/
structure Alike (r s : LogRecord) : Prop where
  level : s.level = r.level
  logger : s.logger = r.logger
  message : s.message = r.message
  correlation : s.attributes.getD "correlation_id" = r.attributes.getD "correlation_id"
  exception : s.exception = r.exception
  known : s.attributes.filter (knownFields.contains ·.1) =
    r.attributes.filter (knownFields.contains ·.1)

/-- What a line tells of a record with a given message, the time apart. -/
def told (r : LogRecord) (m : String) : Entries :=
  [("level", r.level), ("logger", r.logger), ("msg", .str m),
    ("correlation_id", r.attributes.getD "correlation_id"), ("fields", .obj r.fields)]

theorem line_eq (hm : r.message = .ok m) (time : String) :
    r.line time = .ok (Json.spaced (.obj (("ts", .str time) :: r.told m))) := by
  rw [line, toJson, hm]
  rfl

theorem Alike.told_eq (h : Alike r s) (m : String) : s.told m = r.told m := by
  have hfields : s.fields = r.fields := by
    rw [fields, fields, shownFields, shownFields, h.known, h.exception]
  rw [told, told, h.level, h.logger, h.correlation, hfields]

/-- A line with a given time and a given rest. -/
def stamped (time : String) (rest : List Char) : String :=
  String.ofList ("\x7b\"ts\": ".toList ++ (Json.quote time ++ rest))

theorem spaced_eq_stamped (time : String) (e : String × Json) (es : Entries) :
    Json.spaced (.obj (("ts", .str time) :: e :: es)) =
      stamped time (',' :: ' ' :: (Json.printEntries .spaced (e :: es) ++ ['\x7d'])) := by
  have hhead : "\x7b\"ts\": ".toList = '\x7b' :: (Json.quote "ts" ++ [':', ' ']) := by decide
  have hentries : Json.printEntries .spaced (("ts", .str time) :: e :: es) =
      Json.quote "ts" ++ [':', ' '] ++ Json.quote time ++ [',', ' '] ++
        Json.printEntries .spaced (e :: es) := by
    rw [Json.printEntries, Json.print]
    · rfl
    · exact List.cons_ne_nil e es
  unfold stamped Json.spaced
  rw [hhead, Json.print, hentries]
  simp only [List.cons_append, List.append_assoc, List.nil_append]

section WellFormed

variable (hkeys : (r.attributes.map Prod.fst).Nodup)
  (hvalues : ∀ e ∈ r.attributes, e.2.WellFormed)

include hkeys in
theorem nodup_fields : (r.fields.map Prod.fst).Nodup := by
  have hshown : (shownFields r.attributes).map Prod.fst =
      (r.attributes.filter (knownFields.contains ·.1)).map Prod.fst := by
    rw [shownFields, List.map_map]
    exact List.map_congr_left fun e _ => (kept_shownField e).key_eq
  have hnodup : ((shownFields r.attributes).map Prod.fst).Nodup :=
    hshown ▸ hkeys.sublist (List.filter_sublist.map Prod.fst)
  rw [fields, List.map_append]
  cases r.exception with
  | none => exact (List.append_nil _).symm ▸ hnodup
  | some text =>
    change (_ ++ ["exception"]).Nodup
    refine hnodup.append (List.nodup_singleton _) ?_
    rw [hshown, List.disjoint_singleton]
    rintro hmem
    obtain ⟨e, he, hkey⟩ := List.mem_map.mp hmem
    have hknown := List.of_mem_filter he
    rw [hkey] at hknown
    exact absurd hknown (by decide)

include hvalues in
theorem wellFormed_fields : ∀ e ∈ r.fields, e.2.WellFormed := by
  intro e he
  rcases List.mem_append.mp he with he | he
  · obtain ⟨f, hf, rfl⟩ := List.mem_map.mp he
    exact (kept_shownField f).wellFormed (hvalues f (List.mem_of_mem_filter hf))
  · cases hexception : r.exception with
    | none => rw [hexception] at he; cases he
    | some text =>
      rw [hexception] at he
      rw [List.mem_singleton.mp he]
      exact .str text

include hkeys hvalues

theorem wellFormed_get? {key : String} {v : Json} (h : r.attributes.get? key = some v) :
    v.WellFormed :=
  hvalues _ ((Entries.get?_eq_some_iff hkeys).mp h)

theorem wellFormed_getD (key : String) : (r.attributes.getD key).WellFormed := by
  unfold Entries.getD
  cases h : r.attributes.get? key with
  | none => exact .null
  | some v => exact wellFormed_get? hkeys hvalues h

theorem wellFormed_told (m time : String) :
    (Json.obj (("ts", .str time) :: r.told m)).WellFormed := by
  refine .obj (show ["ts", "level", "logger", "msg", "correlation_id", "fields"].Nodup by decide)
    fun e he => ?_
  have hlevel : r.level.WellFormed := by
    unfold level
    cases h : r.attributes.get? "levelname" with
    | none => exact .str _
    | some v => exact wellFormed_get? hkeys hvalues h
  simp only [told, List.mem_cons, List.not_mem_nil, or_false] at he
  rcases he with rfl | rfl | rfl | rfl | rfl | rfl
  · exact .str time
  · exact hlevel
  · exact wellFormed_getD hkeys hvalues "name"
  · exact .str m
  · exact wellFormed_getD hkeys hvalues "correlation_id"
  · exact .obj (nodup_fields hkeys) (wellFormed_fields hvalues)

end WellFormed

/-- A record is written as one printable line, which is read back as what it tells of the record:
level, logger, message, correlation id, the known attributes and the exception. Records that agree
on these are written alike but for the time. -/
theorem lines_tell_records (hkeys : (r.attributes.map Prod.fst).Nodup)
    (hvalues : ∀ e ∈ r.attributes, e.2.WellFormed) (hm : r.message = .ok m) :
    (∃ fields, List.Forall₂ Kept (r.attributes.filter (knownFields.contains ·.1)) fields ∧
      ∀ time, ∃ line, r.line time = .ok line ∧
        (∀ c ∈ line.toList, 0x20 ≤ c.toNat ∧ c.toNat ≤ 0x7e) ∧
        Json.parse? line = some (.obj
          [("ts", .str time), ("level", r.level), ("logger", r.logger), ("msg", .str m),
            ("correlation_id", r.attributes.getD "correlation_id"),
            ("fields", .obj (fields ++
              (r.exception.map fun text => ("exception", .str text)).toList))])) ∧
    ∀ s, Alike r s → ∃ rest, ∀ time,
      r.line time = .ok (stamped time rest) ∧ s.line time = .ok (stamped time rest) := by
  refine ⟨⟨_, shownFields_kept r.attributes, fun time => ?_⟩, fun s halike => ?_⟩
  · have hwell := wellFormed_told hkeys hvalues m time
    refine ⟨_, line_eq hm time, fun c hc => ?_, ?_⟩
    · rw [Json.spaced, String.toList_ofList] at hc
      exact hwell.isVisible (fun c hc => Json.isVisible_of_all hc (by decide))
        (fun c hc => Json.isVisible_of_all hc (by decide)) hc
    · rw [hwell.parse?_spaced, told, fields]
      cases r.exception <;> rfl
  · obtain ⟨e, es, htold⟩ : ∃ e es, r.told m = e :: es := ⟨_, _, rfl⟩
    refine ⟨',' :: ' ' :: (Json.printEntries .spaced (e :: es) ++ ['\x7d']), fun time => ?_⟩
    rw [line_eq hm, line_eq (halike.message.trans hm), halike.told_eq, htold, spaced_eq_stamped]
    exact ⟨rfl, rfl⟩

/-- A warning with a text error that is too long by one character, between other attributes. -/
def warning (before behind : Entries) : LogRecord where
  attributes := before ++ [("levelname", .str "WARNING"), ("name", .str "engine"),
    ("msg", .str "card %s"), ("correlation_id", .str "a\n\"b\""),
    ("duration_ms", .float (.finite false 7205759403792794 (-56))),
    ("error", .str (String.ofList (List.replicate 499 'x' ++ ['\u03c0', '!'])))] ++ behind
  arguments := [.str "\",\n\u03c0"]

/-- Neither the quotes and line ends in texts nor a password do any harm. -/
theorem lines_tell_records_warning :
    (∃ line, (warning [("password", .str "hunter2")] []).line "now" = .ok line ∧
      (∀ c ∈ line.toList, 0x20 ≤ c.toNat ∧ c.toNat ≤ 0x7e) ∧
      Json.parse? line = some (.obj [("ts", .str "now"), ("level", .str "WARNING"),
        ("logger", .str "engine"), ("msg", .str "card \",\n\u03c0"),
        ("correlation_id", .str "a\n\"b\""),
        ("fields", .obj [("duration_ms", .float (.finite false 7205759403792794 (-56))),
          ("error", .str (String.ofList (List.replicate 499 'x' ++ ['\u03c0'])))])])) ∧
    ∃ rest, ∀ time,
      (warning [("password", .str "hunter2")] []).line time = .ok (stamped time rest) ∧
      (warning [] [("token", .str "swordfish")]).line time = .ok (stamped time rest) := by
  obtain ⟨⟨fields, hkept, hlines⟩, hsame⟩ :=
    lines_tell_records (r := warning [("password", .str "hunter2")] []) (m := "card \",\n\u03c0")
      (by decide) (by
        intro e he
        simp only [warning, List.cons_append, List.nil_append, List.append_nil, List.mem_cons,
          List.not_mem_nil, or_false] at he
        rcases he with rfl | rfl | rfl | rfl | rfl | rfl | rfl
        all_goals first
          | exact .str _
          | exact .float ⟨by decide, by decide, by decide, fun _ => by decide⟩)
      (by decide +kernel)
  have hfields : fields = [("duration_ms", .float (.finite false 7205759403792794 (-56))),
      ("error", .str (String.ofList (List.replicate 499 'x' ++ ['\u03c0'])))] := by
    have hshown := List.forall₂_map_left_iff.mpr (hkept.imp fun _ _ h => h.eq_shownField.symm)
    rw [List.forall₂_eq_eq_eq] at hshown
    have hcut : cutError (String.ofList (List.replicate 499 'x' ++ ['\u03c0', '!'])) =
        String.ofList (List.replicate 499 'x' ++ ['\u03c0']) := by
      rw [cutError, String.toList_ofList, errorLimit, List.take_append, List.length_replicate,
        List.take_of_length_le (by rw [List.length_replicate]; decide)]
      rfl
    rw [← hcut]
    exact hshown.symm
  refine ⟨?_, hsame (warning [] [("token", .str "swordfish")]) ⟨?_, ?_, ?_, ?_, ?_, ?_⟩⟩
  · obtain ⟨line, hline, hvisible, hread⟩ := hlines "now"
    refine ⟨line, hline, hvisible, hread.trans ?_⟩
    rw [hfields]
    rfl
  all_goals rfl

end LogRecord
end BoardRules
