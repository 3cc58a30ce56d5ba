import Outscan.GuestScan.RequestHash

/-! The token that binds a Telegram account. -/
namespace Outscan

/-- `OUTSCAN:TELEGRAM_BINDING:v1`, closed by a zero byte. -/
def telegramTokenDomain : List UInt8 := utf8Bytes "OUTSCAN:TELEGRAM_BINDING:v1" ++ [0]

/-- What `tokenHash` hashes. -/
def telegramTokenMessage (token : String) : List UInt8 := telegramTokenDomain ++ asciiBytes token

end Outscan
