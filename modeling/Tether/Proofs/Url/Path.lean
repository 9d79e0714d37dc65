import Tether.Control.Client
import Tether.Proofs.Url.Host

/-!
The path of a URL and what is written behind it. The directories of a path are the segments that
stand when its text has been gone through and a slash follows (`directoriesOf`). More slashes leave
an empty segment each, and the path of the key service is added to the directories as it is
(`segmentsOf_slashes`, `segmentsOf_keyPath`); the path itself has the text of its directories,
perhaps with a slash (`segmentsOf_text`). Blanks make the last segment another, longer one
(`segmentsOf_blanks`). Behind a query or a fragment nothing goes to the path any more
(`readTail_path_append`).
-/

namespace Tether.Url

open Tether.Control Tether.Text

/-! ## Parts -/

theorem Kind.split_ne_nil (kind : Kind) (cs : List Char) : kind.split cs ≠ [] := by
  cases cs with
  | nil => exact List.cons_ne_nil _ _
  | cons c cs =>
    unfold Kind.split
    rw [List.foldr_cons]
    split
    · exact List.cons_ne_nil _ _
    · split <;> exact List.cons_ne_nil _ _

theorem Kind.split_cons (kind : Kind) (c : Char) (cs : List Char) :
    kind.split (c :: cs) = if kind.isSlash c then [] :: kind.split cs
      else match kind.split cs with
        | [] => [[c]]
        | p :: rest => (c :: p) :: rest := rfl

/-- A slash divides. -/
theorem Kind.split_append_slash {kind : Kind} {c : Char} (h : kind.isSlash c = true)
    (front back : List Char) :
    kind.split (front ++ c :: back) = kind.split front ++ kind.split back := by
  induction front with
  | nil =>
    rw [List.nil_append, Kind.split_cons, if_pos h]
    rfl
  | cons x front ih =>
    rw [List.cons_append, Kind.split_cons, ih, Kind.split_cons]
    split
    · rfl
    · cases hs : kind.split front with
      | nil => exact absurd hs (kind.split_ne_nil front)
      | cons p rest => rfl

/-- Text without a slash goes to the last part. -/
theorem Kind.split_append_of_not_slash {kind : Kind} {back : List Char}
    (h : ∀ c ∈ back, kind.isSlash c = false) (front : List Char) :
    ∃ init last, kind.split front = init ++ [last] ∧
      kind.split (front ++ back) = init ++ [last ++ back] := by
  induction front with
  | nil =>
    refine ⟨[], [], rfl, ?_⟩
    induction back with
    | nil => rfl
    | cons c back ih =>
      have hc := h c List.mem_cons_self
      have hback := ih fun x hx => h x (List.mem_cons_of_mem c hx)
      rw [List.nil_append] at hback ⊢
      rw [Kind.split_cons, if_neg (by simp [hc]), hback]
      rfl
  | cons x front ih =>
    obtain ⟨init, last, hf, hb⟩ := ih
    rw [List.cons_append, Kind.split_cons, Kind.split_cons, hf, hb]
    split
    · exact ⟨[] :: init, last, rfl, rfl⟩
    · cases init with
      | nil => exact ⟨[], x :: last, rfl, rfl⟩
      | cons p init => exact ⟨(x :: p) :: init, last, rfl, rfl⟩

/-! ## Encoded parts -/

theorem percentEncode_eq (set : UInt8 → Bool) (cs : List Char) :
    percentEncode set cs = String.ofList ((cs.flatMap String.utf8EncodeChar).flatMap fun b =>
      if set b then percentByte b else [Char.ofNat b.toNat]) := by
  rw [percentEncode, toList_toUTF8]

theorem percentEncode_append (set : UInt8 → Bool) (front back : List Char) :
    percentEncode set (front ++ back) = percentEncode set front ++ percentEncode set back := by
  simp only [percentEncode_eq, List.flatMap_append, String.ofList_append]

/-! ## Walking -/

/-- The segments behind one more part, if it is not the last one. -/
def enter (done : List String) (part : List Char) : List String :=
  if isAbove part then done.dropLast
  else if isHere part then done
  else done ++ [percentEncode inPathSet part]

theorem walk_append {rest : List (List Char)} (h : rest ≠ []) (done : List String)
    (parts : List (List Char)) :
    Kind.hosted.walk done (parts ++ rest) = Kind.hosted.walk (parts.foldl enter done) rest := by
  induction parts generalizing done with
  | nil => rfl
  | cons part parts ih =>
    have hne : (parts ++ rest).isEmpty = false := by
      rw [List.isEmpty_eq_false_iff]
      exact fun he => h (List.append_eq_nil_iff.1 he).2
    rw [List.cons_append, Kind.walk, List.foldl_cons, enter, hne]
    split
    · exact ih _
    · split
      · exact ih _
      · exact ih _

theorem walk_singleton (done : List String) (part : List Char) :
    Kind.hosted.walk done [part] = if isAbove part then done.dropLast ++ [""]
      else if isHere part then done ++ [""]
      else done ++ [percentEncode inPathSet part] := by
  simp [Kind.walk, Kind.shorten]

/-- The segments that the text behind a host makes, if that text is empty or begins with a slash. -/
def segmentsOf : List Char → List String
  | [] => Kind.hosted.walk [] [[]]
  | _ :: more => Kind.hosted.walk [] (Kind.hosted.split more)

/-- Those of its segments that stand when a slash follows: its directories. -/
def directoriesOf : List Char → List String
  | [] => []
  | _ :: more => (Kind.hosted.split more).foldl enter []

/-- What follows a slash is walked from the directories on. -/
theorem segmentsOf_append_slash (cs more : List Char) :
    segmentsOf (cs ++ '/' :: more) =
      Kind.hosted.walk (directoriesOf cs) (Kind.hosted.split more) := by
  cases cs with
  | nil => rfl
  | cons c cs =>
    show Kind.hosted.walk [] (Kind.hosted.split (cs ++ '/' :: more)) = _
    rw [Kind.split_append_slash rfl, walk_append (Kind.split_ne_nil _ _)]
    rfl

theorem split_slashes (n : Nat) :
    Kind.hosted.split (List.replicate n '/') = List.replicate (n + 1) [] := by
  induction n with
  | zero => rfl
  | succ n ih =>
    have hslash : Kind.hosted.isSlash '/' = true := rfl
    rw [List.replicate_succ, Kind.split_cons, if_pos hslash, ih]
    rfl

theorem walk_empty (done : List String) (n : Nat) :
    Kind.hosted.walk done (List.replicate n []) = done ++ List.replicate n "" := by
  have habove : isAbove [] = false := by decide
  have hhere : isHere [] = false := by decide
  have hempty : percentEncode inPathSet [] = "" := percentEncode_eq inPathSet []
  induction n generalizing done with
  | zero => exact (List.append_nil done).symm
  | succ n ih =>
    rw [List.replicate_succ, Kind.walk, habove, hhere]
    simp [hempty, ih, List.replicate_succ]

/-- Every slash behind a path leaves an empty segment. -/
theorem segmentsOf_slashes (cs : List Char) (n : Nat) :
    segmentsOf (cs ++ List.replicate (n + 1) '/') =
      directoriesOf cs ++ List.replicate (n + 1) "" := by
  rw [List.replicate_succ, segmentsOf_append_slash, split_slashes, walk_empty]

theorem keyPath_eq : keyPath.toList = '/' :: "server/network-key".toList := by decide

/-- The path of the key service is added to the directories. -/
theorem segmentsOf_keyPath (cs : List Char) :
    segmentsOf (cs ++ keyPath.toList) = directoriesOf cs ++ ["server", "network-key"] := by
  have hsplit : Kind.hosted.split "server/network-key".toList =
      ["server".toList, "network-key".toList] := by decide
  have hserver : isAbove "server".toList = false ∧ isHere "server".toList = false ∧
      percentEncode inPathSet "server".toList = "server" := by rw [percentEncode_eq]; decide
  have hname : isAbove "network-key".toList = false ∧ isHere "network-key".toList = false ∧
      percentEncode inPathSet "network-key".toList = "network-key" := by
    rw [percentEncode_eq]
    decide
  rw [keyPath_eq, segmentsOf_append_slash, hsplit, Kind.walk, hserver.1, hserver.2.1]
  simp only [Bool.false_eq_true, if_false, reduceCtorEq, false_and]
  rw [walk_singleton, hname.1, hname.2.1, hname.2.2, hserver.2.2]
  simp

/-! ## Texts -/

/-- The text of segments. -/
def segmentsText (parts : List String) : List Char := parts.flatMap fun p => '/' :: p.toList

theorem toList_text (parts : List String) :
    (Path.segments parts).text.toList = segmentsText parts := by
  rw [Path.text, String.toList_join, List.flatMap_map]
  simp [segmentsText]

theorem segmentsText_append (front back : List String) :
    segmentsText (front ++ back) = segmentsText front ++ segmentsText back := List.flatMap_append

theorem length_segmentsText_singleton (part : String) :
    (segmentsText [part]).length = part.toList.length + 1 := by
  simp [segmentsText]

theorem segmentsText_empty (n : Nat) :
    segmentsText (List.replicate n "") = List.replicate n '/' := by
  induction n with
  | zero => rfl
  | succ n ih =>
    rw [List.replicate_succ, List.replicate_succ, ← ih]
    rfl

theorem segmentsText_keyPath : segmentsText ["server", "network-key"] = keyPath.toList := by
  decide

/-- A path has the text of its directories, perhaps with a slash behind it. -/
theorem segmentsOf_text (cs : List Char) :
    segmentsText (segmentsOf cs) = segmentsText (directoriesOf cs) ∨
      segmentsText (segmentsOf cs) = segmentsText (directoriesOf cs) ++ ['/'] := by
  cases cs with
  | nil => exact .inr (congrArg segmentsText (walk_empty [] 1))
  | cons c cs =>
    obtain ⟨init, last, hs⟩ : ∃ init last, Kind.hosted.split cs = init ++ [last] :=
      ⟨_, _, (List.dropLast_append_getLast (Kind.hosted.split_ne_nil cs)).symm⟩
    unfold segmentsOf directoriesOf
    dsimp only
    rw [hs, walk_append (List.cons_ne_nil _ _), List.foldl_append, List.foldl_cons, List.foldl_nil,
      walk_singleton, enter]
    split
    · rw [segmentsText_append]
      exact .inr rfl
    · split
      · rw [segmentsText_append]
        exact .inr rfl
      · exact .inl rfl

/-- So it has the text of its directories and slashes, however many slashes stand behind it. -/
theorem segmentsOf_slashes_text (cs : List Char) (n : Nat) :
    ∃ m, segmentsText (segmentsOf (cs ++ List.replicate n '/')) =
      segmentsText (directoriesOf cs) ++ List.replicate m '/' := by
  cases n with
  | zero =>
    rw [List.replicate_zero, List.append_nil]
    obtain h | h := segmentsOf_text cs
    · exact ⟨0, by rw [h, List.replicate_zero, List.append_nil]⟩
    · exact ⟨1, h⟩
  | succ n =>
    exact ⟨n + 1, by rw [segmentsOf_slashes, segmentsText_append, segmentsText_empty]⟩

theorem percentEncode_ne_empty (set : UInt8 → Bool) {cs : List Char} (h : cs ≠ []) :
    0 < (percentEncode set cs).toList.length := by
  obtain ⟨c, cs, rfl⟩ := List.exists_cons_of_ne_nil h
  obtain ⟨b, bs, hb⟩ := List.exists_cons_of_ne_nil (String.utf8EncodeChar_ne_nil (c := c))
  have hbyte : (if set b then percentByte b else [Char.ofNat b.toNat]) ≠ [] := by
    split <;> exact List.cons_ne_nil _ _
  rw [percentEncode_eq, List.flatMap_cons, hb, String.toList_ofList, List.cons_append,
    List.flatMap_cons, List.length_append]
  exact Nat.add_pos_left (List.length_pos_iff.2 hbyte) _

/-- A part with a blank in it stands for no other place. -/
theorem isOuter_not_place {part : List Char} {c : Char} (hc : c ∈ part) (h : isOuter c = true) :
    isAbove part = false ∧ isHere part = false := by
  have hlower : c.toLower = c :=
    isOuter_forall (P := fun c => c.toLower = c) (by decide) h
  have hmem : c ∈ part.map Char.toLower := List.mem_map.2 ⟨c, hc, hlower⟩
  have hout (names : List String) (hall : names.all fun n => n.toList.all fun x => !isOuter x) :
      names.contains (String.ofList (part.map Char.toLower)) = false := by
    rw [Bool.eq_false_iff]
    intro hcon
    have hname := List.all_eq_true.1 hall _ (List.contains_iff_mem.1 hcon)
    have hnot := List.all_eq_true.1 hname c (by rwa [String.toList_ofList])
    simp [h] at hnot
  exact ⟨hout _ (by decide), hout _ (by decide +kernel)⟩

/-- Blanks behind a path make it longer. -/
theorem segmentsOf_blanks {cs blanks : List Char} (hcs : cs ≠ []) (hne : blanks ≠ [])
    (hblanks : ∀ c ∈ blanks, isOuter c = true) :
    (segmentsText (segmentsOf cs)).length <
      (segmentsText (directoriesOf (cs ++ blanks))).length := by
  obtain ⟨c, cs, rfl⟩ := List.exists_cons_of_ne_nil hcs
  have hslash : ∀ c ∈ blanks, Kind.hosted.isSlash c = false := fun c hc =>
    isOuter_forall (P := fun c => Kind.hosted.isSlash c = false) (by decide) (hblanks c hc)
  obtain ⟨init, last, hsplit, hsplit'⟩ := Kind.split_append_of_not_slash hslash cs
  obtain ⟨b, hb⟩ := List.exists_mem_of_ne_nil blanks hne
  obtain ⟨habove, hhere⟩ :=
    isOuter_not_place (List.mem_append_right last hb) (hblanks b hb)
  have hlonger := percentEncode_ne_empty inPathSet hne
  have hlast : (segmentsText ((init.foldl enter []).dropLast)).length ≤
      (segmentsText (init.foldl enter [])).length := by
    obtain ⟨rest, hrest⟩ := List.dropLast_prefix (init.foldl enter [])
    have htext := congrArg (fun parts => (segmentsText parts).length) hrest
    rw [segmentsText_append, List.length_append] at htext
    omega
  unfold segmentsOf directoriesOf
  rw [List.cons_append]
  dsimp only
  rw [hsplit, hsplit', walk_append (List.cons_ne_nil _ _), List.foldl_append, List.foldl_cons,
    List.foldl_nil, walk_singleton, enter, habove, hhere]
  simp only [Bool.false_eq_true, if_false, segmentsText_append, List.length_append,
    length_segmentsText_singleton, percentEncode_append, String.toList_append]
  split
  · rw [segmentsText_append, List.length_append, length_segmentsText_singleton, String.toList_empty,
      List.length_nil]
    omega
  · split
    · rw [segmentsText_append, List.length_append, length_segmentsText_singleton,
        String.toList_empty, List.length_nil]
      omega
    · rw [segmentsText_append, List.length_append, length_segmentsText_singleton]
      omega

/-! ## Tails -/

/-- The text can follow a host. -/
def Follows (tail : List Char) : Prop := ∀ c ∈ tail.head?, Kind.hosted.endsHost c = true

/-- The character begins neither a query nor a fragment. -/
def isPathChar (c : Char) : Bool := c ≠ '?' && c ≠ '#'

theorem isPathChar_eq : (fun c : Char => decide (c ≠ '?') && decide (c ≠ '#')) = isPathChar := rfl

theorem readTail_path {v : Url} (hv : v.path = .segments []) {tail : List Char}
    (ht : Follows tail) :
    (readTail .hosted v tail).path = .segments (segmentsOf (tail.takeWhile isPathChar)) := by
  unfold readTail
  dsimp only
  rw [hv, isPathChar_eq]
  cases tail with
  | nil => rfl
  | cons c tail =>
    cases hc : isPathChar c with
    | false =>
      have htake := List.takeWhile_cons_of_neg (l := tail) (Bool.eq_false_iff.1 hc)
      rw [htake]
      rfl
    | true =>
      have hslash : Kind.hosted.isSlash c = true := by
        have hends := ht c rfl
        simp only [isPathChar, Bool.and_eq_true, decide_eq_true_eq] at hc
        simpa [Kind.endsHost, hc] using hends
      have htake := List.takeWhile_cons_of_pos (l := tail) hc
      rw [htake]
      dsimp only
      rw [if_pos hslash]
      rfl

/-- A tail that makes a path only gives its text. -/
theorem readTail_text {v : Url} (hv : v.path = .segments []) {tail : List Char}
    (ht : Follows tail) (hplain : ∀ c ∈ tail, isPathChar c = true) :
    (readTail .hosted v tail).path.text.toList = segmentsText (segmentsOf tail) := by
  rw [readTail_path hv ht, toList_text, List.takeWhile_eq_self_iff.2 hplain]

/-- Behind a query or a fragment, nothing goes to the path. -/
theorem readTail_path_append {v : Url} (hv : v.path = .segments []) {front : List Char}
    (hnot : ¬ ∀ c ∈ front, isPathChar c = true) {x y : List Char} (hx : Follows (front ++ x))
    (hy : Follows (front ++ y)) :
    (readTail .hosted v (front ++ x)).path = (readTail .hosted v (front ++ y)).path := by
  have htake (back : List Char) :
      (front ++ back).takeWhile isPathChar = front.takeWhile isPathChar := by
    rw [List.takeWhile_append]
    refine if_neg fun hlength => hnot ?_
    exact List.takeWhile_eq_self_iff.1 ((List.takeWhile_prefix _).eq_of_length hlength)
  rw [readTail_path hv hx, readTail_path hv hy, htake, htake]

/-- A URL without a query and a fragment has a tail of its path only. -/
theorem readTail_plain_iff (v : Url) (tail : List Char) :
    ((readTail .hosted v tail).query = none ∧ (readTail .hosted v tail).fragment = none) ↔
      ∀ c ∈ tail, isPathChar c = true := by
  have hrest : tail.drop (tail.takeWhile isPathChar).length = tail.dropWhile isPathChar := by
    have hsplit := List.takeWhile_append_dropWhile (p := isPathChar) (l := tail)
    calc tail.drop (tail.takeWhile isPathChar).length
        = (tail.takeWhile isPathChar ++ tail.dropWhile isPathChar).drop
            (tail.takeWhile isPathChar).length := by rw [hsplit]
      _ = tail.dropWhile isPathChar := List.drop_left
  unfold readTail
  dsimp only
  rw [isPathChar_eq, hrest, Option.map_eq_none_iff, Option.map_eq_none_iff]
  cases hd : tail.dropWhile isPathChar with
  | nil => exact iff_of_true ⟨rfl, rfl⟩ (List.dropWhile_eq_nil_iff.1 hd)
  | cons c rest =>
    have hc : isPathChar c = false := by
      have hhead := List.head?_dropWhile_not isPathChar tail
      rwa [hd] at hhead
    have hmem : c ∈ tail := (List.dropWhile_suffix isPathChar).subset (hd ▸ List.mem_cons_self)
    refine iff_of_false ?_ fun hall => by simp [hall c hmem] at hc
    rintro ⟨hquery, hfragment⟩
    obtain rfl | rfl : c = '?' ∨ c = '#' := by
      by_contra hne
      rw [not_or] at hne
      simp [isPathChar, hne] at hc
    · cases hquery
    · cases hfragment

end Tether.Url
