import SqlLint.Proofs.Path.Components
import SqlLint.Proofs.Text.Utf8
import SqlLint.Url.Basic

/-!
# URLs of files

The URL that `ofFilePath?` gives a file is one of the file: percent encoding is undone
(`decode_encodeWith`), and `filePath?` leads back to a path with the same components
(`same_of_ofFilePath?`).
-/

namespace SqlLint

namespace Url

open String (utf8EncodeChar)
open Text

variable {c : Char} {cs : List Char} {path other : String} {u : Url}

/-! ## Percent encoding -/

theorem encode_toString (c : Char) : Utf8.encode c.toString = utf8EncodeChar c := by
  rw [Utf8.encode_eq]
  simp [Char.toString]

theorem hexValue?_hexDigit {n : Nat} (h : n < 16) : hexValue? (hexDigit n) = some n := by
  have all : ∀ n : Fin 16, hexValue? (hexDigit n) = some n.val := by decide
  exact all ⟨n, h⟩

theorem decode_percentByte (b : UInt8) (cs : List Char) :
    decode (percentByte b ++ cs) = b :: decode cs := by
  have small := b.toNat_lt
  have digits : 16 * (b.toNat / 16) + b.toNat % 16 = b.toNat := by omega
  have high : hexValue? (hexDigit (b.toNat / 16)) = some (b.toNat / 16) :=
    hexValue?_hexDigit (by omega)
  have low : hexValue? (hexDigit (b.toNat % 16)) = some (b.toNat % 16) :=
    hexValue?_hexDigit (by omega)
  simp only [percentByte, List.cons_append, List.nil_append, decode, high, low, digits]
  simp

theorem decode_flatMap_percentByte (bytes : List UInt8) (cs : List Char) :
    decode (bytes.flatMap percentByte ++ cs) = bytes ++ decode cs := by
  induction bytes with
  | nil => rfl
  | cons b bytes ih =>
    rw [List.flatMap_cons, List.append_assoc, decode_percentByte, ih, List.cons_append]

theorem decode_cons (h : c ≠ '%') (cs : List Char) :
    decode (c :: cs) = utf8EncodeChar c ++ decode cs := by
  rw [decode, encode_toString]
  rintro _ _ _ rfl
  exact absurd rfl h

/-- What is percent encoded decodes to the bytes of the text, if percents are encoded too. -/
theorem decode_encodeWith {set : Char → Bool} (percent : set '%' = true) (text cs : List Char) :
    decode (encodeWith set text ++ cs) = text.flatMap utf8EncodeChar ++ decode cs := by
  induction text with
  | nil => rfl
  | cons c text ih =>
    rw [encodeWith, List.flatMap_cons, List.append_assoc, ← encodeWith, List.flatMap_cons,
      List.append_assoc]
    split
    · rw [percentChar, decode_flatMap_percentByte, ih, encode_toString]
    · next plain =>
      have : c ≠ '%' := fun e => plain (e ▸ percent)
      rw [List.singleton_append, decode_cons this, ih]

/-! ## Paths -/

/-- The path of some components below the root. -/
def pathOf (segments : List Component) : List Char :=
  if segments = [] then ['/'] else segments.flatMap fun c => '/' :: c.text.toList

theorem inSegment_percent : inSegment '%' = true := by
  simp [inSegment, inPath, inFragment, isControl]

theorem decode_segments (segments : List Component) :
    decode (segments.flatMap fun c => '/' :: segment c) =
      (segments.flatMap fun c => '/' :: c.text.toList).flatMap utf8EncodeChar := by
  induction segments with
  | nil => rfl
  | cons c segments ih =>
    rw [List.flatMap_cons, List.cons_append, decode_cons (by decide), segment,
      decode_encodeWith inSegment_percent, ih]
    simp

theorem parts_slash (cs : List Char) : Path.parts ('/' :: cs) = Path.parts cs := by
  have split := Path.parts_append_slash [] cs
  rwa [List.nil_append, Path.parts_nil, List.nil_append] at split

theorem parts_pathOf {segments : List Component} (h : ∀ c ∈ segments, Path.IsPart c) :
    Path.parts (pathOf segments) = segments := by
  unfold pathOf
  split
  · next empty => rw [empty, parts_slash, Path.parts_nil]
  · clear * - h
    induction segments with
    | nil => rfl
    | cons c segments ih =>
      obtain ⟨hc, hsegments⟩ := List.forall_mem_cons.1 h
      have rest := ih hsegments
      rw [List.flatMap_cons, List.cons_append, parts_slash]
      cases segments with
      | nil => simpa using hc.parts_text
      | cons d segments =>
        rw [List.flatMap_cons, List.cons_append, parts_slash] at rest
        rw [List.flatMap_cons, List.cons_append, Path.parts_append_slash, hc.parts_text, rest,
          List.singleton_append]

/-- The URL of a file, decoded, is the path of its components. -/
theorem decode_path_of_ofFilePath? (h : ofFilePath? path = some u) :
    u.isLocal = true ∧ u.path.toList.head? = some '/' ∧
      decode u.path.toList = (pathOf (Path.parts path.toList)).flatMap utf8EncodeChar := by
  unfold ofFilePath? at h
  split at h
  · next absolute =>
    rw [Path.components_of_isAbsolute absolute, List.drop_succ_cons, List.drop_zero] at h
    obtain rfl := Option.some.inj h
    refine ⟨by simp [isLocal], ?_, ?_⟩
    · dsimp only
      cases Path.parts path.toList <;> simp
    · dsimp only
      rw [String.toList_ofList, pathOf]
      split
      · rw [decode_cons (by decide)]
        rfl
      · exact decode_segments _
  · cases h

theorem filePath?_of_ofFilePath? (h : ofFilePath? path = some u) :
    ∃ p, u.filePath? = some p ∧ Path.isAbsolute p = true ∧
      Path.parts p.toList = Path.parts path.toList := by
  obtain ⟨isLocal, head, bytes⟩ := decode_path_of_ofFilePath? h
  have whole : Path.parts (pathOf (Path.parts path.toList)) = Path.parts path.toList :=
    parts_pathOf fun c hc => Path.isPart_of_mem hc
  have absolute : (pathOf (Path.parts path.toList)).head? = some '/' := by
    unfold pathOf
    cases Path.parts path.toList <;> simp
  generalize pathOf (Path.parts path.toList) = text at bytes whole absolute
  rw [filePath?, fileBytes?, if_pos ⟨head, isLocal⟩, bytes]
  dsimp only
  split
  · -- A slash more at the end makes no component more.
    have slash : Utf8.encode "/" = ['/'].flatMap utf8EncodeChar := Utf8.encode_eq "/"
    refine ⟨String.ofList (text ++ ['/']), ?_, ?_, ?_⟩
    · rw [Option.map_some, Utf8.lossyString, slash, ← List.flatMap_append, Utf8.lossy_flatMap]
    · simp [Path.isAbsolute, absolute]
    · rw [String.toList_ofList, Path.parts_append_slash, whole, Path.parts_nil, List.append_nil]
  · refine ⟨String.ofList text, ?_, ?_, ?_⟩
    · rw [Option.map_some, Utf8.lossyString, Utf8.lossy_flatMap]
    · simp [Path.isAbsolute, absolute]
    · rw [String.toList_ofList, whole]

/-- The URL of a file leads back to a spelling of its path. -/
theorem same_of_ofFilePath? {p : String} (h : ofFilePath? path = some u)
    (hp : u.filePath? = some p) : Path.same path p = true := by
  have absolute : Path.isAbsolute path = true := by
    by_contra relative
    rw [ofFilePath?, if_neg relative] at h
    cases h
  obtain ⟨q, hq, hqabsolute, parts⟩ := filePath?_of_ofFilePath? h
  obtain rfl : q = p := Option.some.inj (hq.symm.trans hp)
  exact Path.same_of_parts_eq absolute hqabsolute parts.symm

end Url

end SqlLint
