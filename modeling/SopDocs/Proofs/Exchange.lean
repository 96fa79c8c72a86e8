import SopDocs.Web.Exchange

/-!
# What is sent for a request

A request is sent as it is, and then once more for each redirection, to another address but with the
same method and the same body. A success is no redirection.
-/

namespace SopDocs.Web

variable {transport : Transport} {request : Request} {response : Response} {requests : List Request}

theorem isRedirection_of_isSuccess {status : Nat} (h : isSuccess status = true) :
    isRedirection status = false := by
  unfold isSuccess at h
  simp only [Bool.and_eq_true, decide_eq_true_eq] at h
  unfold isRedirection
  rw [List.contains_eq_mem, decide_eq_false_iff_not]
  intro hmem
  simp only [List.mem_cons, List.not_mem_nil, or_false] at hmem
  omega

theorem redirection?_of_isSuccess (url : Url) (hsuccess : isSuccess response.status = true) :
    redirection? url response = none := by
  rw [redirection?, isRedirection_of_isSuccess hsuccess, if_neg Bool.false_ne_true]

/-- A success is the response to a request, whatever location comes with it. -/
theorem send_of_isSuccess (hanswer : transport request = some response)
    (hsuccess : isSuccess response.status = true) :
    send transport request = ⟨[request], .ok response⟩ := by
  unfold send follow
  simp only [hanswer, redirection?_of_isSuccess request.url hsuccess]

end SopDocs.Web
