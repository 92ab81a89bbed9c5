import Polyglot.Delivery.ContentMap
import Polyglot.Proofs.Text.Percent

/-! URIs of virtual documents read back. The parts of such a URI are found by its first slash and its
last full stop, while the name and the extension of the language stand in it as they are. A slash in
the name or a full stop in the extension leaves some of them with the coded URI of the document, and
what is read back is then longer than what was written. -/

namespace Polyglot

open Text

/-- The name and the extension of the language can be told from what stands between them in a URI. -/
def Language.Addressable (l : Language) : Prop := '/' ∉ l.name.toList ∧ '.' ∉ l.extension.toList

instance (l : Language) : Decidable l.Addressable := inferInstanceAs (Decidable (_ ∧ _))

/-! ### First and last occurrences -/

/-- What a text that ends in `c` leaves behind, if it is cut after the first `c`. -/
def frontSpill (c : Char) (cs : List Char) : List Char :=
  match afterFirst? c cs with
  | some r => r ++ [c]
  | none => []

/-- What a text that starts with `c` leaves behind, if it is cut before the last `c`. -/
def backSpill (c : Char) (cs : List Char) : List Char :=
  match beforeLast? c cs with
  | some r => c :: r
  | none => []

theorem afterFront?_append (front cs : List Char) : afterFront? front (front ++ cs) = some cs := by
  simp [afterFront?]

theorem afterFirst?_append (c : Char) (cs r : List Char) :
    afterFirst? c (cs ++ c :: r) = some (frontSpill c cs ++ r) := by
  induction cs with
  | nil => simp [afterFirst?, frontSpill]
  | cons d cs ih =>
    by_cases h : d = c
    · simp [afterFirst?, frontSpill, h]
    · have hd : (d != c) = true := by simpa using h
      simpa [afterFirst?, frontSpill, hd] using ih

theorem afterFirst?_eq_none_iff (c : Char) (cs : List Char) : afterFirst? c cs = none ↔ c ∉ cs := by
  induction cs with
  | nil => simp [afterFirst?]
  | cons d cs ih =>
    by_cases h : d = c
    · simp [afterFirst?, h]
    · have hd : (d != c) = true := by simpa using h
      simpa [afterFirst?, hd, Ne.symm h] using ih

theorem frontSpill_reverse (c : Char) (cs : List Char) :
    frontSpill c cs.reverse = (backSpill c cs).reverse := by
  unfold frontSpill backSpill beforeLast?
  cases afterFirst? c cs.reverse <;> simp

theorem beforeLast?_append (c : Char) (r cs : List Char) :
    beforeLast? c (r ++ c :: cs) = some (r ++ backSpill c cs) := by
  have h : (r ++ c :: cs).reverse = cs.reverse ++ c :: r.reverse := by simp
  rw [beforeLast?, h, afterFirst?_append, frontSpill_reverse]
  simp

theorem frontSpill_eq_nil_iff (c : Char) (cs : List Char) : frontSpill c cs = [] ↔ c ∉ cs := by
  rw [← afterFirst?_eq_none_iff, frontSpill]
  cases afterFirst? c cs <;> simp

theorem backSpill_eq_nil_iff (c : Char) (cs : List Char) : backSpill c cs = [] ↔ c ∉ cs := by
  rw [← List.reverse_eq_nil_iff, ← frontSpill_reverse, frontSpill_eq_nil_iff, List.mem_reverse]

/-! ### Reading back -/

/-- The coded URI of a document. -/
def coded (uri : String) : List Char := (Percent.encode uri).toList

theorem toList_virtualDocumentUri (uri : String) (v : VirtualDocument) :
    (virtualDocumentUri uri v).toList = vdocHead.toList ++
      (v.language.name.toList ++ '/' :: (coded uri ++ '.' :: v.language.extension.toList)) := by
  simp [virtualDocumentUri, coded]

/-- What is read back is the coded URI, with what spills over from the name and the extension. -/
theorem hostUri?_virtualDocumentUri (uri : String) (v : VirtualDocument) :
    hostUri? (virtualDocumentUri uri v) = Percent.decode?
      (frontSpill '/' v.language.name.toList ++ coded uri ++
        backSpill '.' v.language.extension.toList) := by
  rw [hostUri?, toList_virtualDocumentUri, afterFront?_append, Option.bind_some, afterFirst?_append,
    Option.bind_some, ← List.append_assoc, beforeLast?_append, Option.bind_some]

theorem decodeBytes_coded (uri : String) (r : List Char) :
    Percent.decodeBytes (coded uri ++ r) = Percent.bytes uri.toList ++ Percent.decodeBytes r := by
  rw [coded, Percent.encode, String.toList_ofList, Percent.decodeBytes_encodeBy (by decide)]

theorem decodeBytes_frontSpill_append (cs r : List Char) :
    Percent.decodeBytes (frontSpill '/' cs ++ r) =
      Percent.decodeBytes (frontSpill '/' cs) ++ Percent.decodeBytes r := by
  have hslash : ∀ r, Percent.decodeBytes ('/' :: r) =
      String.utf8EncodeChar '/' ++ Percent.decodeBytes r := Percent.decodeBytes_cons (by decide)
  unfold frontSpill
  split
  · rename_i front _
    rw [List.append_assoc, List.singleton_append, Percent.decodeBytes_append (by decide),
      Percent.decodeBytes_append (by decide), hslash, hslash]
    simp [Percent.decodeBytes]
  · rfl

/-- Which URI is read back: the one whose bytes are those of the document's own, between what spills
over. -/
theorem hostUri?_virtualDocumentUri_eq_some_iff (uri found : String) (v : VirtualDocument) :
    hostUri? (virtualDocumentUri uri v) = some found ↔
      Percent.bytes found.toList =
        Percent.decodeBytes (frontSpill '/' v.language.name.toList) ++ Percent.bytes uri.toList ++
          Percent.decodeBytes (backSpill '.' v.language.extension.toList) := by
  rw [hostUri?_virtualDocumentUri, Percent.decode?, Percent.ofBytes?_eq_some_iff, List.append_assoc,
    decodeBytes_frontSpill_append, decodeBytes_coded, List.append_assoc, eq_comm]

theorem hostUri?_virtualDocumentUri_iff (uri : String) (v : VirtualDocument) :
    hostUri? (virtualDocumentUri uri v) = some uri ↔ v.language.Addressable := by
  rw [hostUri?_virtualDocumentUri_eq_some_iff, Language.Addressable, ← frontSpill_eq_nil_iff,
    ← backSpill_eq_nil_iff, ← Percent.decodeBytes_eq_nil_iff, ← Percent.decodeBytes_eq_nil_iff]
  constructor
  · intro h
    have hlength := congrArg List.length h
    simp only [List.length_append] at hlength
    exact ⟨List.length_eq_zero_iff.mp (by omega), List.length_eq_zero_iff.mp (by omega)⟩
  · rintro ⟨hfront, hback⟩
    rw [hfront, hback, List.nil_append, List.append_nil]

/-- What stands after the name, and the name itself, can be told from a text of the two. -/
theorem eq_and_eq_of_append_eq {c : Char} {front front' rest rest' : List Char} (h : c ∉ front)
    (h' : c ∉ front') (heq : front ++ c :: rest = front' ++ c :: rest') :
    front = front' ∧ rest = rest' := by
  have hafter := congrArg (afterFirst? c) heq
  rw [afterFirst?_append, afterFirst?_append, (frontSpill_eq_nil_iff c front).mpr h,
    (frontSpill_eq_nil_iff c front').mpr h'] at hafter
  obtain rfl : rest = rest' := Option.some.inj hafter
  exact ⟨List.append_cancel_right heq, rfl⟩

theorem virtualDocumentUri_injective {uri uri' : String} {v v' : VirtualDocument}
    (h : v.language.Addressable) (h' : v'.language.Addressable)
    (heq : virtualDocumentUri uri v = virtualDocumentUri uri' v') :
    v.language.name = v'.language.name ∧ uri = uri' ∧
      v.language.extension = v'.language.extension := by
  have huri : uri = uri' := by
    have hread := (hostUri?_virtualDocumentUri_iff uri v).mpr h
    rw [heq, (hostUri?_virtualDocumentUri_iff uri' v').mpr h'] at hread
    exact (Option.some.inj hread).symm
  have hlist := congrArg String.toList heq
  rw [toList_virtualDocumentUri, toList_virtualDocumentUri] at hlist
  obtain ⟨hname, hrest⟩ := eq_and_eq_of_append_eq h.1 h'.1 (List.append_cancel_left hlist)
  rw [huri] at hrest
  have hextension := (List.cons.inj (List.append_cancel_left hrest)).2
  exact ⟨String.toList_inj.mp hname, huri, String.toList_inj.mp hextension⟩

/-- The URI of a document is read back from that of its virtual document exactly where the language
is addressable, and there the URI determines all that it was made from. -/
theorem virtualDocumentUri_codec :
    (∀ (uri : String) (v : VirtualDocument),
      hostUri? (virtualDocumentUri uri v) = some uri ↔
        '/' ∉ v.language.name.toList ∧ '.' ∉ v.language.extension.toList) ∧
    (∀ (uri uri' : String) (v v' : VirtualDocument),
      '/' ∉ v.language.name.toList ∧ '.' ∉ v.language.extension.toList →
      '/' ∉ v'.language.name.toList ∧ '.' ∉ v'.language.extension.toList →
      virtualDocumentUri uri v = virtualDocumentUri uri' v' →
        v.language.name = v'.language.name ∧ uri = uri' ∧
          v.language.extension = v'.language.extension) :=
  ⟨hostUri?_virtualDocumentUri_iff, fun _ _ _ _ => virtualDocumentUri_injective⟩

namespace Dotted

/-- A language with a full stop in its name, a slash in its extension and a percent sign in both. -/
def virtualDocument : VirtualDocument := ⟨.plain "c.%2" "%2/x" [] [] .all, ""⟩

def uri : String := "a/b.c%2F%\x00\u00e9"

theorem virtualDocumentUri_codec_dotted :
    ('/' ∉ virtualDocument.language.name.toList ∧ '.' ∉ virtualDocument.language.extension.toList) ∧
      hostUri? (virtualDocumentUri uri virtualDocument) = some uri ∧
      ∀ other, virtualDocumentUri other virtualDocument = virtualDocumentUri uri virtualDocument →
        other = uri := by
  have h : '/' ∉ virtualDocument.language.name.toList ∧
      '.' ∉ virtualDocument.language.extension.toList := by decide
  refine ⟨h, (virtualDocumentUri_codec.1 uri virtualDocument).mpr h, ?_⟩
  intro other heq
  exact (virtualDocumentUri_codec.2 other uri virtualDocument virtualDocument h h heq).2.1

end Dotted

end Polyglot
