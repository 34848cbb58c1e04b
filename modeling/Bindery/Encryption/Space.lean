/-! Names of the XML encryption manifest: its place in a container and the four namespaces. -/
namespace Bindery.Encryption

def location : String := "META-INF/encryption.xml"

def containerSpace : String := "urn:oasis:names:tc:opendocument:xmlns:container"

def encryptionSpace : String := "http://www.w3.org/2001/04/xmlenc#"

def signatureSpace : String := "http://www.w3.org/2000/09/xmldsig#"

def compressionSpace : String := "http://www.idpf.org/2016/encryption#compression"

end Bindery.Encryption
