import Storefront.Fetch.Download
import Storefront.Proofs.Url.RoundTrip

/-! # Addresses of pages resolved again

A path on a site is joined to the domain as it stands, while a whole address is read and written. So an address that has
been resolved stays as it is only if what was joined is written as it is read.
-/
namespace Storefront
variable {ν : Type}

namespace Url
variable {u : Url} {a : Authority}

theorem joinSlash_toText (h : u.authority = some a) (ha : SettledAuthority u.scheme a) (s : List Char) :
    Text.joinSlash u.toText s = frontOf u.scheme a ++ Text.joinSlash u.restText s := by
  obtain ⟨front, c, hlast, hc⟩ := exists_last_toText ha
  have hfront : frontOf u.scheme a = (u.scheme ++ ':' :: '/' :: '/' :: front) ++ [c] := by simp [frontOf, hlast]
  have hdrop := Text.dropEndWhile_append_cons (p := (· == '/')) (beq_eq_false_iff_ne.mpr hc)
    (u.scheme ++ ':' :: '/' :: '/' :: front) u.restText
  rw [Text.joinSlash, Text.joinSlash, toText_eq_frontOf h, hfront, List.append_assoc _ [c], List.singleton_append, hdrop]
  simp

end Url

namespace Fetcher

/-- A path on a site stays the same when it is resolved again just if the address of the site keeps it: if it holds no
characters that are encoded where it comes to stand, nor, in a path, backslashes and dots for the place itself or the one
above. -/
theorem resolve_resolve_iff (f : Fetcher ν) {s : String} {path : String} {e : Url.Fault}
    (hdomain : Url.ofString s = .ok f.domain) (hscheme : f.domain.scheme ∈ Url.webSchemes)
    (hpath : Url.ofString path = .error e) :
    f.resolve (some (f.resolve (some path))) = f.resolve (some path) ↔ f.domain.Keeps path.toList := by
  obtain ⟨a, hauthority, ha, hparts⟩ := Url.exists_settled hdomain hscheme
  obtain ⟨hspecial, -⟩ := Url.isSpecial_of_mem hscheme
  obtain ⟨t, hjoined, hkeeps⟩ := hparts.exists_joined path.toList
  have hresolve : f.resolve (some path) = String.ofList (Url.frontOf f.domain.scheme a ++ '/' :: t) := by
    have htext : (toString f.domain).toList = f.domain.toText := String.toList_ofList
    simp only [resolve, hpath, htext, Url.joinSlash_toText hauthority ha, hjoined]
  have hread := Url.read_frontOf hscheme ha t
  generalize hclean : (Text.dropEndWhile (·.toNat ≤ 32) t).filter (!Url.isDropped ·) = t' at hread
  have hagain : f.resolve (some (f.resolve (some path))) =
      String.ofList (Url.frontOf f.domain.scheme a ++ (Url.readRest f.domain.scheme a ('/' :: t')).restText) := by
    have hread : Url.ofString (f.resolve (some path)) = .ok (Url.readRest f.domain.scheme a ('/' :: t')) := by
      rw [hresolve, Url.ofString, String.toList_ofList, hread]
    rw [resolve, hread]
    exact congrArg String.ofList (Url.toText_eq_frontOf rfl)
  rw [hagain, hresolve, String.ofList_inj, List.append_cancel_left_eq, ← hkeeps]
  constructor
  · intro h
    obtain ⟨s, hs, hsettled⟩ := (Url.settledParts_readRest hspecial a ('/' :: t')).exists_restText
    rw [hs, List.cons.injEq] at h
    exact h.2 ▸ hsettled
  · intro h
    rw [← hclean, Url.clean_of_settledRest h]
    exact Url.restText_readRest hspecial a h

def shop : Fetcher Unit where
  domain := { scheme := "https".toList, authority := some { host := .name "shop.test".toList }, path := ['/'] }
  policy := {}
  transport := .offline
  clock _ := ⟨0, 0⟩

theorem resolve_resolve_iff_lamps :
    Url.ofString "https://shop.test" = .ok shop.domain ∧ Url.ofString "lamps?page=2" = .error .relative ∧
      shop.resolve (some (shop.resolve (some "lamps?page=2"))) = shop.resolve (some "lamps?page=2") := by
  have hdomain : Url.ofString "https://shop.test" = .ok shop.domain := by decide +kernel
  have hpath : Url.ofString "lamps?page=2" = .error .relative := by decide +kernel
  have hkeeps : shop.domain.Keeps "lamps?page=2".toList := by decide +kernel
  exact ⟨hdomain, hpath, (shop.resolve_resolve_iff hdomain (by decide) hpath).mpr hkeeps⟩

/-- A blank in a path is encoded only when the whole address is resolved. -/
theorem spaced_path_is_resolved_anew :
    Url.ofString "https://shop.test" = .ok shop.domain ∧ Url.ofString "a b" = .error .relative ∧
      shop.resolve (some "a b") = "https://shop.test/a b" ∧
      shop.resolve (some (shop.resolve (some "a b"))) = "https://shop.test/a%20b" ∧
      shop.resolve (some (shop.resolve (some "a b"))) ≠ shop.resolve (some "a b") := by
  decide +kernel

end Fetcher
end Storefront
