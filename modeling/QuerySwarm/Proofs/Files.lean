import QuerySwarm.Files

/-!
# A file that comes and goes

Where a path leads to a place that is no directory, the way there does not lead through that place. So
whatever is put there, or taken away, the path leads there still (`locate_put`, `locate_remove`).
Writing to the path is putting a file there (`write_eq_put`).
-/

namespace QuerySwarm.Files

variable {files : Files} {location : Location} {path : String}

/-! ### Taking an entry away -/

theorem entryAt?_remove (files : Files) (h : location ≠ []) :
    (files.remove location).entryAt? location = none := by
  simp [entryAt?, remove, h]

/-- Taking an entry away leaves the others alone. -/
theorem entryAt?_remove_ne (files : Files) {other : Location} (h : other ≠ location) :
    (files.remove location).entryAt? other = files.entryAt? other := by
  unfold entryAt? remove
  split
  · rfl
  · simp only [List.find?_filter]
    congr 2
    funext e
    by_cases he : e.1 = location
    · simp [he, Ne.symm h]
    · simp [he]

/-! ### The way to a place -/

theorem ne_root_of_entryAt? (h : files.entryAt? location ≠ some .directory) : location ≠ [] := by
  rintro rfl
  exact h rfl

/-- A walk leads on where it led before, if no directory on the way has changed. -/
theorem walk_eq_of_agree {files' : Files} (agree : ∀ other, files.entryAt? other = some .directory →
    files'.entryAt? other = some .directory) {here : Location} {parts : List String}
    (h : files.walk here parts = .ok location) : files'.walk here parts = .ok location := by
  induction parts generalizing here with
  | nil => exact h
  | cons part rest ih =>
    rw [walk] at h ⊢
    split at h
    · cases h
    · next hdirectory =>
      rw [agree here hdirectory]
      dsimp only
      split at h
      · next hstay =>
        rw [if_pos hstay]
        exact ih h
      · next hstay =>
        rw [if_neg hstay]
        split at h
        · next hup =>
          rw [if_pos hup]
          exact ih h
        · next hup =>
          rw [if_neg hup]
          split at h
          · cases h
          · next hlong =>
            rw [if_neg hlong]
            exact ih h
    · cases h

theorem locate_eq_of_agree {files' : Files} (working : files'.working = files.working)
    (agree : ∀ other, files.entryAt? other = some .directory →
      files'.entryAt? other = some .directory)
    (h : files.locate path = .ok location) : files'.locate path = .ok location := by
  have horigin : files'.origin path = files.origin path := by
    unfold origin
    rw [working]
  unfold locate at h ⊢
  rw [horigin]
  split at h
  · cases h
  · exact walk_eq_of_agree agree h

/-- Where a path leads to no directory, it leads there whatever is put there. -/
theorem locate_put (h : files.locate path = .ok location)
    (hplace : files.entryAt? location ≠ some .directory) (entry : Entry) :
    (files.put location entry).locate path = .ok location := by
  have hworking : (files.put location entry).working = files.working := rfl
  refine locate_eq_of_agree hworking (fun other hother => ?_) h
  rwa [entryAt?_put_ne]
  rintro rfl
  exact hplace hother

theorem locate_remove (h : files.locate path = .ok location)
    (hplace : files.entryAt? location ≠ some .directory) :
    (files.remove location).locate path = .ok location := by
  have hworking : (files.remove location).working = files.working := rfl
  refine locate_eq_of_agree hworking (fun other hother => ?_) h
  rwa [entryAt?_remove_ne]
  rintro rfl
  exact hplace hother

/-! ### Writing -/

theorem walk_append {here : Location} {parts more : List String} :
    files.walk here (parts ++ more) = (files.walk here parts).bind (files.walk · more) := by
  induction parts generalizing here with
  | nil => rfl
  | cons part rest ih =>
    rw [List.cons_append, walk, walk]
    split
    · rfl
    · split
      · exact ih
      · split
        · exact ih
        · split
          · rfl
          · exact ih
    · rfl

/-- A path that ends in a slash leads to directories only. -/
theorem not_endsInSlash_of_locate (h : files.locate path = .ok location)
    (hplace : files.entryAt? location ≠ some .directory) : endsInSlash path = false := by
  refine Bool.eq_false_iff.2 fun hslash => hplace ?_
  obtain ⟨front, hpath⟩ := List.getLast?_eq_some_iff.1 (eq_of_beq hslash)
  have hparts : parts path = (front.splitOn '/').map String.ofList ++ [""] := by
    unfold parts List.splitOn
    rw [hpath, List.splitOnP_append_cons front [] (by decide), List.map_append]
    rfl
  unfold locate at h
  split at h
  · cases h
  · rw [hparts, walk_append] at h
    cases hwalk : files.walk (files.origin path) ((front.splitOn '/').map String.ofList) with
    | error e =>
      rw [hwalk] at h
      cases h
    | ok place =>
      rw [hwalk] at h
      simp only [Except.bind, walk] at h
      split at h
      · cases h
      · next hdirectory =>
        cases h
        exact hdirectory
      · cases h

/-- Writing to a place that holds a file, or nothing yet, is putting a file there. -/
theorem write_eq_put (h : files.locate path = .ok location)
    (hplace : files.entryAt? location = none ∨ ∃ old, files.entryAt? location = some (.file old))
    (content : Bytes) : files.write path content = .ok (files.put location (.file content)) := by
  have hdirectory : files.entryAt? location ≠ some .directory := by
    rcases hplace with heq | ⟨old, heq⟩ <;> rw [heq] <;> rintro ⟨⟩
  have hslash := not_endsInSlash_of_locate h hdirectory
  have hwhole : withoutLastSlash path = path := by
    unfold withoutLastSlash
    have hlast : path.toList.reverse.dropWhile (· == '/') = path.toList.reverse := by
      cases hrev : path.toList.reverse with
      | nil => rfl
      | cons c cs =>
        refine List.dropWhile_cons_of_neg fun hc => ?_
        have hget : path.toList.getLast? = some c := by
          rw [← List.head?_reverse, hrev]
          rfl
        unfold endsInSlash at hslash
        rw [hget, eq_of_beq hc] at hslash
        cases hslash
    rw [hlast, List.reverse_reverse, String.ofList_toList]
  unfold locate at h
  unfold write
  rw [hwhole]
  split at h
  · cases h
  · next hcheck =>
    simp only [h, hslash, Bool.false_eq_true, if_false]
    rcases hplace with heq | ⟨old, heq⟩ <;> rw [heq]

end QuerySwarm.Files
