import BlogSearch.Network.Basic
import BlogSearch.Proofs.Json.Strings

/-!
# Requests tell searches apart

A search is sent as the text of its fields.  The fields can be read off that text one after another,
so two searches that are sent alike are the same search.
-/

namespace BlogSearch

theorem Decimal.digits_injective : Function.Injective Decimal.digits := by
  intro m n h
  have hvalue : some m = some n := by
    rw [← Decimal.value?_digits m, h, Decimal.value?_digits n]
  exact Option.some.inj hvalue

/-- Two texts that begin with a number and a comma are equal only if the numbers and the rests are. -/
theorem Decimal.digits_append_comma_inj {m n : Nat} {x y : List Char}
    (h : Decimal.digits m ++ ',' :: x = Decimal.digits n ++ ',' :: y) : m = n ∧ x = y := by
  have hleading (k : Nat) (rest : List Char) :
      (Decimal.digits k ++ ',' :: rest).takeWhile Char.isDigit = Decimal.digits k := by
    have hdigits : ∀ c ∈ Decimal.digits k, c.isDigit = true := by
      intro c hc
      exact Nat.isDigit_of_mem_toDigits (by decide) (by decide) hc
    rw [List.takeWhile_append_of_pos hdigits]
    exact List.append_nil _
  have hsame : Decimal.digits m = Decimal.digits n := by
    rw [← hleading m x, h, hleading n y]
  refine ⟨Decimal.digits_injective hsame, ?_⟩
  rw [hsame, List.append_cancel_left_eq, List.cons.injEq] at h
  exact h.2

theorem Json.writeWhole_natCast (n : Nat) : Json.writeWhole n = Decimal.digits n := by
  simp [Json.writeWhole]

theorem Renderer.name_injective : Function.Injective Renderer.name := by
  intro r r' h
  cases r <;> cases r' <;> simp [name] at h ⊢

theorem SortOrder.name_injective : Function.Injective SortOrder.name := by
  intro s s' h
  cases s <;> cases s' <;> simp [name] at h ⊢

theorem SearchRequest.compactChars_injective {q q' : SearchRequest}
    (h : q.json.compactChars = q'.json.compactChars) : q = q' := by
  simp only [SearchRequest.json, Json.Value.compactChars, Json.Value.compactMembers,
    Json.Value.page, Json.Number.write, Json.writeWhole_natCast, Renderer.json, SortOrder.json,
    List.cons.injEq, true_and, List.append_cancel_left_eq] at h
  obtain ⟨hblog, h⟩ := Json.writeString_append_inj h
  simp only [List.cons.injEq, true_and, List.append_cancel_left_eq] at h
  obtain ⟨hquery, h⟩ := Json.writeString_append_inj h
  simp only [List.cons.injEq, true_and, List.append_cancel_left_eq] at h
  obtain ⟨hpage, h⟩ := Decimal.digits_append_comma_inj h
  simp only [List.cons.injEq, true_and, List.append_cancel_left_eq] at h
  obtain ⟨hrender, h⟩ := Json.writeString_append_inj h
  simp only [List.cons.injEq, true_and, List.append_cancel_left_eq] at h
  obtain ⟨hsort, -⟩ := Json.writeString_append_inj h
  have hpage' : q.page = q'.page := UInt32.toNat_inj.mp hpage
  have hrender' : q.render = q'.render := Renderer.name_injective hrender
  have hsort' : q.sort = q'.sort := SortOrder.name_injective hsort
  obtain ⟨blog, query, page, render, sort⟩ := q
  simp only at hblog hquery hpage' hrender' hsort'
  rw [hblog, hquery, hpage', hrender', hsort']

/-- Searches that are sent alike are the same. -/
theorem Request.search_injective : Function.Injective Request.search := by
  intro q q' h
  have htext := congrArg (fun request => request.body.map String.toList) h
  simp only [Request.search, Json.Value.compact, Option.map_some, String.toList_ofList,
    Option.some.injEq] at htext
  exact SearchRequest.compactChars_injective htext

end BlogSearch
