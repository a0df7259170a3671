namespace FeatureLabels.Text

/-- What stands before the first occurrence of a character, and what stands after it if it
occurs. -/
def cutAt (c : Char) (text : String) : String × Option String :=
  (.ofList (text.toList.takeWhile (· != c)),
    (text.toList.dropWhile (· != c)).tail?.map String.ofList)

def uncut (c : Char) (front : String) : Option String → String
  | none => front
  | some back => front ++ .ofList [c] ++ back

theorem toList_uncut (c : Char) (front : String) (back : Option String) :
    (uncut c front back).toList =
      front.toList ++ (back.map fun text => c :: text.toList).getD [] := by
  cases back <;> simp [uncut, String.toList_append]

theorem cutAt_ofList (c : Char) (cs : List Char) :
    cutAt c (.ofList cs) =
      (.ofList (cs.takeWhile (· != c)),
        if (cs.takeWhile (· != c)).length < cs.length then
          some (.ofList (cs.drop ((cs.takeWhile (· != c)).length + 1)))
        else none) := by
  have hparts := List.takeWhile_append_dropWhile (p := (· != c)) (l := cs)
  rw [cutAt, String.toList_ofList, Prod.mk.injEq]
  refine ⟨rfl, ?_⟩
  generalize cs.takeWhile (· != c) = front at hparts ⊢
  generalize cs.dropWhile (· != c) = back at hparts ⊢
  subst hparts
  cases back with
  | nil => simp
  | cons d back => simp [List.drop_length_add_append]

theorem notMem_cutAt (c : Char) (text : String) : c ∉ (cutAt c text).1.toList := by
  rw [cutAt, String.toList_ofList]
  intro hmem
  have hne := List.all_eq_true.mp List.all_takeWhile c hmem
  simp at hne

theorem cutAt_uncut {c : Char} {front : String} (h : c ∉ front.toList) (back : Option String) :
    cutAt c (uncut c front back) = (front, back) := by
  have hne : ∀ d ∈ front.toList, (d != c) = true := by
    intro d hd
    rw [bne_iff_ne]
    rintro rfl
    exact h hd
  rw [cutAt, toList_uncut, List.takeWhile_append_of_pos hne, List.dropWhile_append_of_pos hne]
  cases back <;> simp

theorem uncut_cutAt (c : Char) (text : String) :
    uncut c (cutAt c text).1 (cutAt c text).2 = text := by
  apply String.toList_inj.mp
  rw [toList_uncut, cutAt, String.toList_ofList]
  have hparts := List.takeWhile_append_dropWhile (p := (· != c)) (l := text.toList)
  cases hback : text.toList.dropWhile (· != c) with
  | nil =>
      rw [hback] at hparts
      exact hparts
  | cons d back =>
      have hhead := List.head?_dropWhile_not (· != c) text.toList
      obtain rfl : d = c := by simpa [hback] using hhead
      rw [hback] at hparts
      simpa using hparts

end FeatureLabels.Text
