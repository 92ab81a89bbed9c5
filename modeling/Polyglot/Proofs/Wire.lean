import Polyglot.Config
import Polyglot.Proofs.Json.RoundTrip

/-! What goes over the wire comes back as it was: every request, answer, language property and
configuration is decoded from its JSON form. A field that is left out is read as the value for which it
is left out. -/

namespace Polyglot

open Json Decode

theorem ofWord_ne_null (n : UInt32) : Json.ofWord n ≠ .null := by rintro ⟨⟩

theorem string_ne_null (s : String) : Json.string s ≠ .null := by rintro ⟨⟩

/-! ### Requests -/

theorem Position.roundTrips : RoundTrips toJson decode := by
  refine roundTrips_record fun p fields h => ?_
  have hline := field_of_sameFields roundTrips_word h "line" (some p.line) rfl
  have hcharacter := field_of_sameFields roundTrips_word h "character" (some p.character) rfl
  rw [hline, hcharacter]
  rfl

theorem Range.roundTrips : RoundTrips toJson decode := by
  refine roundTrips_record fun r fields h => ?_
  have hstart := field_of_sameFields Position.roundTrips h "start" (some r.start) rfl
  have hstop := field_of_sameFields Position.roundTrips h "end" (some r.stop) rfl
  rw [hstart, hstop]
  rfl

theorem RequestKind.roundTrips : RoundTrips toJson decode :=
  roundTrips_variant fun k => by cases k <;> rfl

theorem ProviderRequest.roundTrips : RoundTrips toJson decode := by
  refine roundTrips_record fun r fields h => ?_
  have hkind := field_of_sameFields RequestKind.roundTrips h "kind" (some r.kind) rfl
  have huri := field_of_sameFields roundTrips_string h "uri" (some r.uri) rfl
  have hposition := field_of_sameFields Position.roundTrips h "position" (some r.position) rfl
  have htrigger := nullable_field_of_sameFields roundTrips_string string_ne_null h "triggerCharacter"
    r.triggerCharacter (by simp [lookup_cons_eq_ite, lookup_optionalField])
  simp only [hkind, huri, hposition, htrigger, ok_bind, join_map_some]
  rfl

/-! ### Answers -/

theorem CompletionItem.roundTrips : RoundTrips toJson decode := by
  refine roundTrips_record fun i fields h => ?_
  have hlabel := field_of_sameFields roundTrips_string h "label" (some i.label) rfl
  have hkind := nullable_field_of_sameFields roundTrips_word ofWord_ne_null h "kind" i.kind
    (by simp [List.lookup_append, lookup_cons_eq_ite, lookup_optionalField])
  have hstring := nullable_field_of_sameFields roundTrips_string string_ne_null h
  have hdetail := hstring "detail" i.detail
    (by simp [List.lookup_append, lookup_cons_eq_ite, lookup_optionalField])
  have hdocumentation := hstring "documentation" i.documentation
    (by simp [List.lookup_append, lookup_cons_eq_ite, lookup_optionalField])
  have hinsert := hstring "insertText" i.insertText
    (by simp [List.lookup_append, lookup_cons_eq_ite, lookup_optionalField])
  have hsort := hstring "sortText" i.sortText
    (by simp [List.lookup_append, lookup_cons_eq_ite, lookup_optionalField])
  have hfilter := hstring "filterText" i.filterText
    (by simp [List.lookup_append, lookup_cons_eq_ite, lookup_optionalField])
  simp only [hlabel, hkind, hdetail, hdocumentation, hinsert, hsort, hfilter, ok_bind, join_map_some]
  rfl

theorem CompletionList.roundTrips : RoundTrips toJson decode := by
  refine roundTrips_record fun l fields h => ?_
  have hincomplete :=
    field_of_sameFields roundTrips_boolean h "isIncomplete" (some l.isIncomplete) rfl
  have hitems :=
    field_of_sameFields (roundTrips_list CompletionItem.roundTrips) h "items" (some l.items) rfl
  rw [hincomplete, hitems]
  rfl

theorem Hover.roundTrips : RoundTrips toJson decode := by
  refine roundTrips_record fun v fields h => ?_
  have hcontents := field_of_sameFields roundTrips_string h "contents" (some v.contents) rfl
  have hrange := nullable_field_of_sameFields Range.roundTrips (by rintro _ ⟨⟩) h "range" v.range
    (by simp [lookup_cons_eq_ite, lookup_optionalField])
  simp only [hcontents, hrange, ok_bind, join_map_some]
  rfl

theorem SignatureInformation.roundTrips : RoundTrips toJson decode := by
  refine roundTrips_record fun s fields h => ?_
  have hlabel := field_of_sameFields roundTrips_string h "label" (some s.label) rfl
  have hdocumentation := nullable_field_of_sameFields roundTrips_string string_ne_null h
    "documentation" s.documentation (by
      cases s.parameters <;> simp [List.lookup_append, lookup_cons_eq_ite, lookup_optionalField])
  -- an empty list is left out, and read as the list that stands for an absent one
  have hparameters := field_of_sameFields (roundTrips_list roundTrips_string) h "parameters"
    (if s.parameters.isEmpty then none else some s.parameters) (by
      cases s.parameters <;> simp [List.lookup_append, lookup_cons_eq_ite, lookup_optionalField]; rfl)
  simp only [hlabel, hdocumentation, hparameters, ok_bind, join_map_some]
  obtain ⟨label, documentation, parameters⟩ := s
  cases parameters <;> rfl

theorem SignatureHelp.roundTrips : RoundTrips toJson decode := by
  refine roundTrips_record fun v fields h => ?_
  have hsignatures := field_of_sameFields (roundTrips_list SignatureInformation.roundTrips) h
    "signatures" (some v.signatures) rfl
  have hsignature := nullable_field_of_sameFields roundTrips_word ofWord_ne_null h "activeSignature"
    v.activeSignature (by simp [List.lookup_append, lookup_cons_eq_ite, lookup_optionalField])
  have hparameter := nullable_field_of_sameFields roundTrips_word ofWord_ne_null h "activeParameter"
    v.activeParameter (by simp [List.lookup_append, lookup_cons_eq_ite, lookup_optionalField])
  simp only [hsignatures, hsignature, hparameter, ok_bind, join_map_some]
  rfl

/-- The content of an answer is read by the kind that stands beside it. -/
theorem ProviderResponse.decodeResult_of_same {r : ProviderResponse} {j : Json}
    (h : r.result.Same j) : decodeResult r.kind j = .ok r := by
  cases r with
  | completion list =>
    have hlist : CompletionList.decode j = .ok list := CompletionList.roundTrips.decode_of_same h
    rw [kind, decodeResult, hlist]
    rfl
  | hover v =>
    have hhover := (roundTrips_nullable Hover.roundTrips (by rintro _ ⟨⟩)).decode_of_same h
    rw [kind, decodeResult, hhover]
    rfl
  | signatureHelp v =>
    have hhelp := (roundTrips_nullable SignatureHelp.roundTrips (by rintro _ ⟨⟩)).decode_of_same h
    rw [kind, decodeResult, hhelp]
    rfl

theorem ProviderResponse.roundTrips : RoundTrips toJson decode := by
  refine roundTrips_of_same ?_
  intro r j hj
  obtain ⟨fields, rfl, h⟩ := Same.exists_of_object hj
  have hkind := field_of_sameFields RequestKind.roundTrips h "kind" (some r.kind) rfl
  obtain ⟨result, hlookup, hsame⟩ := h.lookup_of_some "result" rfl
  simp only [decode, hkind, hlookup, ok_bind, required, decodeResult_of_same hsame]

/-! ### Languages -/

theorem LanguageFeatures.roundTrips : RoundTrips toJson decode := by
  refine roundTrips_record fun f fields h => ?_
  have hcompletion := field_of_sameFields roundTrips_boolean h "completion" (some f.completion) rfl
  have hhover := field_of_sameFields roundTrips_boolean h "hover" (some f.hover) rfl
  have hsignature :=
    field_of_sameFields roundTrips_boolean h "signatureHelp" (some f.signatureHelp) rfl
  rw [hcompletion, hhover, hsignature]
  rfl

theorem DeliveryStrategy.roundTrips : RoundTrips toJson decode :=
  roundTrips_variant fun d => by cases d <;> rfl

theorem VdocFixup.roundTrips : RoundTrips toJson decode :=
  roundTrips_variant fun f => by cases f; rfl

/-! ### Configuration -/

theorem TempFileNaming.roundTrips : RoundTrips toJson decode :=
  roundTrips_variant fun n => by cases n <;> rfl

/-- Here an absent option is written as null. -/
theorem LanguageOverride.roundTrips : RoundTrips toJson decode := by
  refine roundTrips_record fun o fields h => ?_
  have hstrings := roundTrips_nullable (roundTrips_list roundTrips_string) (by rintro _ ⟨⟩)
  have hname := field_of_sameFields roundTrips_string h "name" (some o.name) rfl
  have hextension := field_of_sameFields (roundTrips_nullable roundTrips_string string_ne_null) h
    "extension" (some o.extension) rfl
  have haliases := field_of_sameFields hstrings h "aliases" (some o.aliases) rfl
  have htriggers := field_of_sameFields hstrings h "triggerCharacters" (some o.triggerCharacters) rfl
  have hfeatures := field_of_sameFields
    (roundTrips_nullable LanguageFeatures.roundTrips (by rintro _ ⟨⟩)) h "features"
    (some o.features) rfl
  rw [hname, hextension, haliases, htriggers, hfeatures]
  rfl

theorem Config.roundTrips : RoundTrips toJson decode := by
  refine roundTrips_record fun c fields h => ?_
  have henabled := field_of_sameFields roundTrips_boolean h "enabled" (some c.enabled) rfl
  have htempDir := field_of_sameFields (roundTrips_nullable roundTrips_path string_ne_null) h
    "tempDir" (some c.tempDir) rfl
  have hnaming :=
    field_of_sameFields TempFileNaming.roundTrips h "tempFileNaming" (some c.tempFileNaming) rfl
  have hcontent := field_of_sameFields (roundTrips_list roundTrips_string) h
    "contentProviderLanguages" (some c.contentProviderLanguages) rfl
  have hlanguages := field_of_sameFields (roundTrips_list LanguageOverride.roundTrips) h "languages"
    (some c.languages) rfl
  have hmath := field_of_sameFields roundTrips_boolean h "displayMath" (some c.displayMath) rfl
  rw [henabled, htempDir, hnaming, hcontent, hlanguages, hmath]
  rfl

/-- A configuration is an object, so it is never taken for the default one. -/
theorem Config.ofJson_of_same {c : Config} {j : Json} (h : c.toJson.Same j) : ofJson j = .ok c := by
  have hdecode := roundTrips.decode_of_same h
  obtain ⟨fields, rfl, -⟩ := Same.exists_of_object h
  rw [ofJson, hdecode]
  · rfl
  · rintro ⟨⟩

/-- Whatever is written as JSON is read back from it as it was. -/
theorem wire_roundTrips :
    RoundTrips Position.toJson Position.decode ∧
    RoundTrips Range.toJson Range.decode ∧
    RoundTrips RequestKind.toJson RequestKind.decode ∧
    RoundTrips CompletionItem.toJson CompletionItem.decode ∧
    RoundTrips CompletionList.toJson CompletionList.decode ∧
    RoundTrips Hover.toJson Hover.decode ∧
    RoundTrips SignatureInformation.toJson SignatureInformation.decode ∧
    RoundTrips SignatureHelp.toJson SignatureHelp.decode ∧
    RoundTrips ProviderRequest.toJson ProviderRequest.decode ∧
    RoundTrips ProviderResponse.toJson ProviderResponse.decode ∧
    RoundTrips LanguageFeatures.toJson LanguageFeatures.decode ∧
    RoundTrips DeliveryStrategy.toJson DeliveryStrategy.decode ∧
    RoundTrips VdocFixup.toJson VdocFixup.decode ∧
    RoundTrips TempFileNaming.toJson TempFileNaming.decode ∧
    RoundTrips LanguageOverride.toJson LanguageOverride.decode ∧
    RoundTrips Config.toJson Config.decode ∧
    ∀ c : Config, Config.ofJson c.toJson = .ok c ∧
      ∀ j, c.toJson.Same j → Config.ofJson j = .ok c :=
  ⟨Position.roundTrips, Range.roundTrips, RequestKind.roundTrips, CompletionItem.roundTrips,
    CompletionList.roundTrips, Hover.roundTrips, SignatureInformation.roundTrips,
    SignatureHelp.roundTrips, ProviderRequest.roundTrips, ProviderResponse.roundTrips,
    LanguageFeatures.roundTrips, DeliveryStrategy.roundTrips, VdocFixup.roundTrips,
    TempFileNaming.roundTrips, LanguageOverride.roundTrips, Config.roundTrips,
    fun _ => ⟨Config.ofJson_of_same (.refl _), fun _ => Config.ofJson_of_same⟩⟩

end Polyglot
