import SmartHome.Lib.Percent

/-! # To the login page and back

Where a page that lacks a token sends the browser (`_checkAuth`, `authFetch` and the listener on `htmx:responseError` in
`app/static/js/app.js`), and where the login page sends it after the login (`app/templates/auth/login.html`). -/

namespace SmartHome.Ui
open Percent

/-- What `encodeURIComponent` encodes: all but letters, digits and `-_.!~*'()`. -/
def componentSet (b : UInt8) : Bool :=
  !(48 ≤ b.toNat && b.toNat ≤ 57 || 65 ≤ b.toNat && b.toNat ≤ 90 || 97 ≤ b.toNat && b.toNat ≤ 122 ||
    [45, 95, 46, 33, 126, 42, 39, 40, 41].contains b)

/-- What the browser encodes in the query of an address. -/
def specialQuerySet (b : UInt8) : Bool := b.toNat ≤ 32 || 126 < b.toNat || [34, 35, 39, 60, 62].contains b

/-- `"/login?next=" + encodeURIComponent(window.location.pathname)`. -/
def loginUrl (pathname : String) : List UInt8 := bytes "/login?next=" ++ encode componentSet (bytes pathname)

/-- `window.location.search` at this address, without its `?`. -/
def search (url : List UInt8) : List UInt8 :=
  encode specialQuerySet (((url.dropWhile fun b => b ≠ 63).drop 1).takeWhile fun b => b ≠ 35)

/-- `new URLSearchParams(window.location.search).get("next") || "/"`. -/
def redirect (replaced : List UInt8 → String) (url : List UInt8) : String :=
  match get replaced (search url) "next" with
  | none => "/"
  | some next => if next = "" then "/" else next

theorem specialQuerySet_escape (c : UInt8) (h : c = 37 ∨ (hexValue c).isSome) : specialQuerySet c = false := by
  have hall : ∀ n < 256, UInt8.ofNat n = 37 ∨ (hexValue (.ofNat n)).isSome → specialQuerySet (.ofNat n) = false := by
    decide +kernel
  have hc := hall c.toNat c.toNat_lt
  rw [UInt8.ofNat_toNat] at hc
  exact hc h

/-- The browser leaves the address as it is, but for apostrophes. -/
theorem search_loginUrl (pathname : String) :
    search (loginUrl pathname) =
      bytes "next" ++ 61 :: encode (fun b => componentSet b || specialQuerySet b) (bytes pathname) := by
  have hsplit : bytes "/login?next=" = bytes "/login" ++ 63 :: bytes "next=" := by decide
  have hpath : ∀ b ∈ bytes "/login", decide (b ≠ 63) = true := by decide +kernel
  have hname : ∀ b ∈ bytes "next=", b ≠ 35 := by decide +kernel
  have hplain : encode specialQuerySet (bytes "next=") = bytes "next" ++ [61] := by decide
  have hhash : ∀ b ∈ bytes "next=" ++ encode componentSet (bytes pathname), decide (b ≠ 35) = true := by
    intro b hb
    refine decide_eq_true ?_
    rintro rfl
    rcases List.mem_append.mp hb with hin | hin
    · exact hname 35 hin rfl
    · exact not_mem_encode (by decide) (by decide) (by decide) _ hin
  rw [search, loginUrl, hsplit, List.append_assoc, List.cons_append, List.dropWhile_append_of_pos hpath,
    List.dropWhile_cons_of_neg (by decide), List.drop_succ_cons, List.drop_zero, ← List.append_nil (_ ++ _),
    List.takeWhile_append_of_pos hhash, List.takeWhile_nil, List.append_nil, encode_append, hplain,
    encode_encode specialQuerySet_escape, List.append_assoc, List.singleton_append]

/-- The login leads back to the page, from every page. A pathname that begins with `//` would lead to another host;
    no route of the application has one. -/
theorem login_leads_back (replaced : List UInt8 → String) (pathname : String) :
    redirect replaced (loginUrl pathname) = if pathname = "" then "/" else pathname := by
  have hset : ∀ b ∈ [(37 : UInt8), 38, 43], (componentSet b || specialQuerySet b) = true := by decide +kernel
  have hname : ∀ b ∈ [(37 : UInt8), 38, 43, 61], b ∉ bytes "next" := by decide +kernel
  rw [redirect, search_loginUrl, get_encoded replaced hset hname]

end SmartHome.Ui
