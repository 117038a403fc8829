import PagedCatalogue.Text.LowerCase

namespace PagedCatalogue.Text

def sameName (a b : String) : Bool := lowerCase a.toList == lowerCase b.toList

end PagedCatalogue.Text
