import Storefront.Plan.Page

/-! # Built-in plans -/
namespace Storefront.Catalog

def secure (host : String) : Url :=
  ⟨"https".toList, some { host := .name host.toList }, ['/'], none, none⟩

def promUa : PagePlan where
  id := some 7
  name := "PromUa"
  domain := secure "prom.ua"
  title := Rule.css "title" [⟨.htmlDecode, []⟩, ⟨.before, [":"]⟩, ⟨.before, [" - "]⟩, ⟨.trim, []⟩]
  defaultMode := .single
  defaultOption := some {
    code := some { Rule.css "span[data-qaid='product_code']" with detail := .attr "title" }
    stock := some (Rule.css "li[data-qaid='presence_data']")
    price := Rule.css "span[data-qaid='product_price']" [⟨.commas2Points, []⟩, ⟨.onlyFloatChars, []⟩]
    currency := .uah }

def variantId : String := "[sS]ize[vV]ar[iI][dD]\":\"(\\d+)"

def sportsDirect : PagePlan where
  id := some 8
  name := "SportsDirect (-0% +30€)"
  domain := secure "ua.sportsdirect.com"
  preprocess := [⟨.regexReplace, ["&quot;", "\""]⟩, ⟨.stripHtmlComments, []⟩, ⟨.htmlDecode, []⟩]
  title := Rule.css "span#lblProductBrand"
  subtitle := some (Rule.css "span#lblProductName")
  list := some (Rule.regex "\\\x7b\"[sS]ize[nN]ame\":.+?\\\x7d")
  option := some {
    code := some (Rule.regex variantId [⟨.substr, ["-5"]⟩])
    propertyA := some (Rule.regex variantId [⟨.substr, ["-5", "2"]⟩, ⟨.prepend, ["color "]⟩, ⟨.trim, []⟩])
    propertyB := some (Rule.regex "[sS]ize[nN]ame\":\"(.+?)\"," [⟨.remove, ["=\"\""]⟩, ⟨.trim, []⟩])
    price := Rule.regex "[sS]ell[pP]rice[aA]mount\":(.+?),"
    currency := .eur }
  economics := {
    limit := some ⟨.ofUInt64 150, .eur⟩
    extra := some ⟨.ofUInt64 30, .eur⟩ }

/-- The built-in plans; shops with the rules of another one come last. -/
def builtin : List PagePlan :=
  [promUa, sportsDirect,
   promUa.twin (some 1001) "Zhyva" (secure "zhyva.com.ua"),
   promUa.twin (some 1002) "Novosad" (secure "novosad-market.prom.ua"),
   promUa.twin (some 1003) "Smaragd" (secure "smaragd.prom.ua"),
   promUa.twin (some 1004) "Gorshok" (secure "gorshok.kiev.ua")]

end Storefront.Catalog
