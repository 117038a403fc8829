import PagedCatalogue.Api.Application
import PagedCatalogue.Proofs.Text.Integer

namespace PagedCatalogue.Api

open Text

variable {limits : PageLimits} {c : Catalogue} {r : Request} {id : Int}

namespace Route

theorem ofPath?_member {segment : List Char} (nonempty : segment ≠ []) (whole : '/' ∉ segment) :
    ofPath? (base ++ '/' :: segment) = some (.member segment) := by
  simp [ofPath?, after?_append, nonempty, whole]

end Route

def memberPath (id : Int) : String := "/api/v1/items/" ++ Decimal.text id

theorem toList_memberPath (id : Int) :
    (memberPath id).toList = Route.base ++ '/' :: Decimal.write id := by
  rw [memberPath, String.toList_append, Decimal.toList_text]
  rfl

theorem plain_of_mem_write {c : Char} (mem : c ∈ Decimal.write id) :
    c ≠ '%' ∧ c ≠ '/' ∧ c.toNat < 0x80 := by
  rcases Decimal.isDigit_or_minus_of_mem_write mem with digit | rfl
  · have bounds : 48 ≤ c.toNat ∧ c.toNat ≤ 57 := Char.isDigit_iff_toNat.1 digit
    refine ⟨?_, ?_, by omega⟩
    · rintro rfl
      cases digit
    · rintro rfl
      cases digit
  · decide

theorem decode_memberPath (id : Int) :
    Percent.decode (memberPath id).toList = Route.base ++ '/' :: Decimal.write id := by
  have base : Route.base.all (fun c => decide (c ≠ '%' ∧ c.toNat < 0x80)) = true := by decide
  rw [toList_memberPath]
  apply Percent.decode_eq_self
  intro c mem
  rcases List.mem_append.1 mem with front | behind
  · exact of_decide_eq_true (List.all_eq_true.1 base c front)
  · rcases List.mem_cons.1 behind with rfl | numeral
    · decide
    · exact ⟨(plain_of_mem_write numeral).1, (plain_of_mem_write numeral).2.2⟩

theorem ofPath?_memberPath (id : Int) :
    Route.ofPath? (Percent.decode (memberPath id).toList) = some (.member (Decimal.write id)) := by
  obtain ⟨c, mem, -⟩ := Decimal.exists_isDigit_mem_write id
  rw [decode_memberPath]
  refine Route.ofPath?_member (List.ne_nil_of_mem mem) ?_
  intro slash
  exact (plain_of_mem_write slash).2.1 rfl

theorem lookUp_of_fits {segment : List Char} (read : Integer.read (String.ofList segment) = .ok id)
    (fitting : Catalogue.fits id = true) :
    Application.lookUp c segment =
      match c.get? id with
      | some item => { status := 200, payload := .item item }
      | none => .failed (.notFound id) := by
  unfold Application.lookUp
  simp only [read, Catalogue.item, Catalogue.find, fitting, if_true, bind, Except.bind]
  cases c.get? id <;> rfl

theorem lookUp_of_wide {segment : List Char} (read : Integer.read (String.ofList segment) = .ok id)
    (wide : Catalogue.fits id = false) : Application.lookUp c segment = .failed .tooWide := by
  unfold Application.lookUp
  simp only [read, Catalogue.item, Catalogue.find, wide, Bool.false_eq_true, if_false, bind,
    Except.bind]

theorem lookUp_write (fitting : Catalogue.fits id = true) :
    Application.lookUp c (Decimal.write id) =
      match c.get? id with
      | some item => { status := 200, payload := .item item }
      | none => .failed (.notFound id) := by
  have near : id.natAbs < 10 ^ 19 := by
    simp only [Catalogue.fits, Bool.and_eq_true, decide_eq_true_eq] at fitting
    omega
  exact lookUp_of_fits (Integer.read_text near) fitting

theorem answer_of_member {segment : List Char} (get : r.method = "GET")
    (routed : Route.ofPath? (Percent.decode r.path.toList) = some (.member segment)) :
    Application.answer limits c r = (c, Application.lookUp c segment) := by
  simp only [Application.answer, routed, get, if_true]

theorem answer_of_reading (get : r.method = "GET") (path : r.path = memberPath id) :
    Application.answer limits c r = (c, Application.lookUp c (Decimal.write id)) :=
  answer_of_member get (by rw [path, ofPath?_memberPath])

end PagedCatalogue.Api
