import OpenApiClient.Web.Charset
import OpenApiClient.Web.ContentType

set_option autoImplicit false

namespace OpenApiClient.Web

structure Page where
  status : Nat
  contentType : String
  body : String

inductive Answer where
  | page (page : Page)
  | unreached (reason : String)

namespace Page

def isSuccess (page : Page) : Bool := 200 ≤ page.status && page.status < 300

def charset (page : Page) : Charset :=
  ((ContentType.charsetName? page.contentType).bind Charset.ofName?).getD .utf8

def text (page : Page) : Except CharsetError String := page.charset.decode page.body

end Page
end OpenApiClient.Web
