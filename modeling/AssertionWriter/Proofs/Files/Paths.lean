/-
  AssertionWriter.Proofs.Files.Paths

  The paths of files in package directories: which package and which name a path belongs
  to can be told from it.
-/
import AssertionWriter.Files.Access
import AssertionWriter.Proofs.QualifiedName.Reading

namespace AssertionWriter.Files
open Text

/-! ## Joining -/

/-- What stands in front of a segment in a directory: the path of the directory, with a slash
    behind it unless it is empty or has one. -/
def leadOf (base : String) : List Char :=
  if base.isEmpty || base.toList.getLast? = some '/' then base.toList else base.toList ++ ['/']

theorem toList_under {base segment : String} (h : segment.toList.head? ≠ some '/') :
    (under base segment).toList = leadOf base ++ segment.toList := by
  rw [under, if_neg h, leadOf]
  split
  · rw [String.toList_append]
  · simp

/-- Two names in one directory have different paths. -/
theorem under_inj {base s t : String} (hs : s.toList.head? ≠ some '/')
    (ht : t.toList.head? ≠ some '/') : under base s = under base t ↔ s = t := by
  constructor
  · intro h
    have hlist := congrArg String.toList h
    rw [toList_under hs, toList_under ht, List.append_cancel_left_eq] at hlist
    exact String.toList_inj.1 hlist
  · exact congrArg _

/-! ## Package directories -/

/-- The parts of a package. -/
def packageParts (package : String) : List (List Char) :=
  (splitOn '.' package.toList).filter (!·.isEmpty)

/-- Whether a text can be the name of a directory without going to another one. -/
def isPlainSegment (s : List Char) : Bool := !s.isEmpty && !s.contains '/'

theorem head?_ne_of_isPlainSegment {s : List Char} (h : isPlainSegment s = true) :
    (String.ofList s).toList.head? ≠ some '/' := by
  rw [String.toList_ofList]
  intro hhead
  have hmem := List.mem_of_head? hhead
  simp [isPlainSegment, hmem] at h

/-- A plain segment is followed by a slash. -/
theorem leadOf_under {base : String} {s : List Char} (h : isPlainSegment s = true) :
    leadOf (under base (String.ofList s)) = leadOf base ++ (s ++ ['/']) := by
  have htext : (under base (String.ofList s)).toList = leadOf base ++ s := by
    rw [toList_under (head?_ne_of_isPlainSegment h), String.toList_ofList]
  simp only [isPlainSegment, Bool.and_eq_true, Bool.not_eq_true', List.isEmpty_eq_false_iff] at h
  obtain ⟨hne, hslash⟩ := h
  -- The path is not empty and does not end with a slash, so one more is put behind it.
  have hnonempty : (under base (String.ofList s)).isEmpty = false := by
    rw [Bool.eq_false_iff, Ne, String.isEmpty_iff, ← String.toList_inj, htext]
    simp [hne]
  have hlast : (under base (String.ofList s)).toList.getLast? ≠ some '/' := by
    rw [htext, List.getLast?_append, List.getLast?_eq_some_getLast hne, Option.some_or]
    intro hlast
    have hmem := List.getLast_mem hne
    rw [Option.some.inj hlast] at hmem
    simp [hmem] at hslash
  rw [leadOf, hnonempty, if_neg (by simp [hlast]), htext, List.append_assoc]

theorem leadOf_foldl_under {base : String} {ps : List (List Char)}
    (h : ∀ p ∈ ps, isPlainSegment p = true) :
    leadOf (ps.foldl (fun directory part => under directory (String.ofList part)) base) =
      leadOf base ++ ps.flatMap (· ++ ['/']) := by
  induction ps generalizing base with
  | nil => simp
  | cons p ps ih =>
    rw [List.foldl_cons, ih fun q hq => h q (List.mem_cons_of_mem _ hq),
      leadOf_under (h p (by simp)), List.flatMap_cons, List.append_assoc]

theorem flatMap_append_eq_intercalate (ps : List (List Char)) (s : List Char) :
    ps.flatMap (· ++ ['/']) ++ s = List.intercalate ['/'] (ps ++ [s]) := by
  induction ps with
  | nil => simp
  | cons p ps ih =>
    obtain ⟨q, qs, hq⟩ := List.exists_cons_of_ne_nil (l := ps ++ [s]) (by simp)
    rw [List.flatMap_cons, List.append_assoc, ih, List.cons_append, hq,
      List.intercalate_cons_cons]

/-- The path of a file in the directory of a package: its parts and the name, between slashes. -/
theorem toList_under_packageDirectory {base package name : String}
    (hparts : ∀ p ∈ packageParts package, isPlainSegment p = true)
    (hname : isPlainSegment name.toList = true) :
    (under (packageDirectory base package) name).toList =
      leadOf base ++ List.intercalate ['/'] (packageParts package ++ [name.toList]) := by
  have hhead := head?_ne_of_isPlainSegment hname
  rw [String.ofList_toList] at hhead
  rw [toList_under hhead, packageDirectory]
  show leadOf ((packageParts package).foldl _ base) ++ _ = _
  rw [leadOf_foldl_under hparts, List.append_assoc, flatMap_append_eq_intercalate]

/-- Package and name can be told from a path. -/
theorem under_packageDirectory_inj {base p q s t : String}
    (hp : ∀ x ∈ packageParts p, isPlainSegment x = true)
    (hq : ∀ x ∈ packageParts q, isPlainSegment x = true)
    (hs : isPlainSegment s.toList = true) (ht : isPlainSegment t.toList = true) :
    under (packageDirectory base p) s = under (packageDirectory base q) t ↔
      packageParts p = packageParts q ∧ s = t := by
  -- Cutting at the slashes gives the segments back, since none of them has one.
  have hslash : ∀ {ps : List (List Char)} {n : String},
      (∀ x ∈ ps, isPlainSegment x = true) → isPlainSegment n.toList = true →
      splitOn '/' (List.intercalate ['/'] (ps ++ [n.toList])) = ps ++ [n.toList] := by
    intro ps n hps hn
    refine splitOn_intercalate (by simp) fun x hx => ?_
    have hplain : isPlainSegment x = true := by
      rcases List.mem_append.1 hx with hx | hx
      · exact hps x hx
      · rwa [List.mem_singleton.1 hx]
    intro hmem
    simp [isPlainSegment, hmem] at hplain
  constructor
  · intro h
    have hlist := congrArg String.toList h
    rw [toList_under_packageDirectory hp hs, toList_under_packageDirectory hq ht,
      List.append_cancel_left_eq] at hlist
    have hsplit := congrArg (splitOn '/') hlist
    rw [hslash hp hs, hslash hq ht] at hsplit
    obtain ⟨hparts, hname⟩ := List.append_inj' hsplit rfl
    exact ⟨hparts, String.toList_inj.1 (List.singleton_inj.1 hname)⟩
  · rintro ⟨hparts, rfl⟩
    rw [packageDirectory, packageDirectory]
    show under ((packageParts p).foldl _ base) s = under ((packageParts q).foldl _ base) s
    rw [hparts]

end AssertionWriter.Files

namespace AssertionWriter.QualifiedName
open Text Files

/-! ## The packages of names -/

/-- The parts of the package of a well-formed name. -/
theorem WellFormed.packageParts_eq {n : QualifiedName} (h : n.WellFormed) :
    n.package = String.ofList (List.intercalate ['.'] (packageParts n.package)) ∧
      ∀ p ∈ packageParts n.package, isPackagePart p = true := by
  obtain ⟨parts, hpackage, hparts⟩ := h.package
  have hpart : ∀ p ∈ parts, isPart p = true := fun p hp => isPart_of_isPackagePart (hparts p hp)
  have heq : packageParts n.package = parts := by
    rw [packageParts, hpackage, String.toList_ofList]
    by_cases hnil : parts = []
    · -- The empty text is cut into one empty piece, which is left out.
      rw [hnil]
      rfl
    · have hdot : ∀ p ∈ parts, '.' ∉ p := fun p hp =>
        not_mem_of_isPart (hpart p hp) (by decide)
      -- No part is empty, so all of them are kept.
      rw [splitOn_intercalate hnil hdot, List.filter_eq_self]
      intro p hp
      simpa using (isPart_iff.1 (hpart p hp)).1
  rw [heq]
  exact ⟨hpackage, hparts⟩

theorem isPlainSegment_of_isPart {p : List Char} (h : isPart p = true) :
    isPlainSegment p = true := by
  have hslash : '/' ∉ p := not_mem_of_isPart h (by decide)
  simpa [isPlainSegment, hslash] using (isPart_iff.1 h).1

theorem WellFormed.isPlainSegment_packageParts {n : QualifiedName} (h : n.WellFormed) :
    ∀ p ∈ packageParts n.package, isPlainSegment p = true := fun p hp =>
  isPlainSegment_of_isPart (isPart_of_isPackagePart (h.packageParts_eq.2 p hp))

/-- Different packages of names have different parts. -/
theorem WellFormed.packageParts_inj {n m : QualifiedName} (hn : n.WellFormed) (hm : m.WellFormed) :
    packageParts n.package = packageParts m.package ↔ n.package = m.package := by
  constructor
  · intro h
    rw [hn.packageParts_eq.1, hm.packageParts_eq.1, h]
  · intro h
    rw [h]

end AssertionWriter.QualifiedName
