import ClusterInventory.Signing.Curve.Basic

/-! Elliptic curves that have a name, by the bodies that named them. -/

namespace ClusterInventory.Signing.Curve

/-- Identifiers of curves over fields of both kinds. -/
def general (n : UInt8) : List UInt8 := [0x2B, 0x81, 0x04, 0x00, n]

/-- The curves with these identifiers. -/
def generalCurves : List Curve := [
  ⟨"sect163k1", general 1, .binary 0x800000000000000000000000000000000000000C9, 1, 1⟩,
  ⟨"sect163r1", general 2, .binary 0x800000000000000000000000000000000000000C9,
    0x7B6882CAAEFA84F9554FF8428BD88E246D2782AE2, 0x713612DCDDCB40AAB946BDA29CA91F73AF958AFD9⟩,
  ⟨"sect239k1", general 3, .binary 0x800000000000000000004000000000000000000000000000000000000001,
    0, 1⟩,
  ⟨"sect113r1", general 4, .binary 0x20000000000000000000000000201, 0x3088250CA6E7C7FE649CE85820F7,
    0xE8BEE4D3E2260744188BE0E9C723⟩,
  ⟨"sect113r2", general 5, .binary 0x20000000000000000000000000201, 0x689918DBEC7E5A0DD6DFC0AA55C7,
    0x95E9A9EC9B297BD4BF36E059184F⟩,
  ⟨"secp112r1", general 6, .prime 0xDB7C2ABF62E35E668076BEAD208B, 0xDB7C2ABF62E35E668076BEAD2088,
    0x659EF8BA043916EEDE8911702B22⟩,
  ⟨"secp112r2", general 7, .prime 0xDB7C2ABF62E35E668076BEAD208B, 0x6127C24C05F38A0AAAF65C0EF02C,
    0x51DEF1815DB5ED74FCC34C85D709⟩,
  ⟨"secp160r1", general 8, .prime 0xFFFFFFFFFFFFFFFFFFFFFFFFFFFFFFFF7FFFFFFF,
    0xFFFFFFFFFFFFFFFFFFFFFFFFFFFFFFFF7FFFFFFC, 0x1C97BEFC54BD7A8B65ACF89F81D4D4ADC565FA45⟩,
  ⟨"secp160k1", general 9, .prime 0xFFFFFFFFFFFFFFFFFFFFFFFFFFFFFFFEFFFFAC73, 0, 7⟩,
  ⟨"secp256k1", general 10,
    .prime 0xFFFFFFFFFFFFFFFFFFFFFFFFFFFFFFFFFFFFFFFFFFFFFFFFFFFFFFFEFFFFFC2F, 0, 7⟩,
  ⟨"sect163r2", general 15, .binary 0x800000000000000000000000000000000000000C9, 1,
    0x20A601907B8C953CA1481EB10512F78744A3205FD⟩,
  ⟨"sect283k1", general 16,
    .binary 0x800000000000000000000000000000000000000000000000000000000000000000010A1, 0, 1⟩,
  ⟨"sect283r1", general 17,
    .binary 0x800000000000000000000000000000000000000000000000000000000000000000010A1, 1,
    0x27B680AC8B8596DA5A4AF8A19A0303FCA97FD7645309FA2A581485AF6263E313B79A2F5⟩,
  ⟨"sect131r1", general 22, .binary 0x80000000000000000000000000000010D,
    0x7A11B09A76B562144418FF3FF8C2570B8, 0x217C05610884B63B9C6C7291678F9D341⟩,
  ⟨"sect131r2", general 23, .binary 0x80000000000000000000000000000010D,
    0x3E5A88919D7CAFCBF415F07C2176573B2, 0x4B8266A46C55657AC734CE38F018F2192⟩,
  ⟨"sect193r1", general 24, .binary 0x2000000000000000000000000000000000000000000008001,
    0x17858FEB7A98975169E171F77B4087DE098AC8A911DF7B01,
    0xFDFB49BFE6C3A89FACADAA7A1E5BBC7CC1C2E5D831478814⟩,
  ⟨"sect193r2", general 25, .binary 0x2000000000000000000000000000000000000000000008001,
    0x163F35A5137C2CE3EA6ED8667190B0BC43ECD69977702709B,
    0xC9BB9E8927D4D64C377E2AB2856A5B16E3EFB7F61D4316AE⟩,
  ⟨"sect233k1", general 26, .binary 0x20000000000000000000000000000000000000004000000000000000001,
    0, 1⟩,
  ⟨"sect233r1", general 27, .binary 0x20000000000000000000000000000000000000004000000000000000001,
    1, 0x66647EDE6C332C7F8C0923BB58213B333B20E9CE4281FE115F7D8F90AD⟩,
  ⟨"secp128r1", general 28, .prime 0xFFFFFFFDFFFFFFFFFFFFFFFFFFFFFFFF,
    0xFFFFFFFDFFFFFFFFFFFFFFFFFFFFFFFC, 0xE87579C11079F43DD824993C2CEE5ED3⟩,
  ⟨"secp128r2", general 29, .prime 0xFFFFFFFDFFFFFFFFFFFFFFFFFFFFFFFF,
    0xD6031998D1B3BBFEBF59CC9BBFF9AEE1, 0x5EEEFCA380D02919DC2C6558BB6D8A5D⟩,
  ⟨"secp160r2", general 30, .prime 0xFFFFFFFFFFFFFFFFFFFFFFFFFFFFFFFEFFFFAC73,
    0xFFFFFFFFFFFFFFFFFFFFFFFFFFFFFFFEFFFFAC70, 0xB4E134D3FB59EB8BAB57274904664D5AF50388BA⟩,
  ⟨"secp192k1", general 31, .prime 0xFFFFFFFFFFFFFFFFFFFFFFFFFFFFFFFFFFFFFFFEFFFFEE37, 0, 3⟩,
  ⟨"secp224k1", general 32, .prime 0xFFFFFFFFFFFFFFFFFFFFFFFFFFFFFFFFFFFFFFFFFFFFFFFEFFFFE56D, 0,
    5⟩,
  ⟨"secp224r1", general 33, .prime 0xFFFFFFFFFFFFFFFFFFFFFFFFFFFFFFFF000000000000000000000001,
    0xFFFFFFFFFFFFFFFFFFFFFFFFFFFFFFFEFFFFFFFFFFFFFFFFFFFFFFFE,
    0xB4050A850C04B3ABF54132565044B0B7D7BFD8BA270B39432355FFB4⟩,
  ⟨"secp384r1", general 34,
    .prime 0xFFFFFFFFFFFFFFFFFFFFFFFFFFFFFFFFFFFFFFFFFFFFFFFFFFFFFFFFFFFFFFFEFFFFFFFF0000000000000000FFFFFFFF,
    0xFFFFFFFFFFFFFFFFFFFFFFFFFFFFFFFFFFFFFFFFFFFFFFFFFFFFFFFFFFFFFFFEFFFFFFFF0000000000000000FFFFFFFC,
    0xB3312FA7E23EE7E4988E056BE3F82D19181D9C6EFE8141120314088F5013875AC656398D8A2ED19D2A85C8EDD3EC2AEF⟩,
  ⟨"secp521r1", general 35,
    .prime 0x1FFFFFFFFFFFFFFFFFFFFFFFFFFFFFFFFFFFFFFFFFFFFFFFFFFFFFFFFFFFFFFFFFFFFFFFFFFFFFFFFFFFFFFFFFFFFFFFFFFFFFFFFFFFFFFFFFFFFFFFFFFFFFFFFFF,
    0x1FFFFFFFFFFFFFFFFFFFFFFFFFFFFFFFFFFFFFFFFFFFFFFFFFFFFFFFFFFFFFFFFFFFFFFFFFFFFFFFFFFFFFFFFFFFFFFFFFFFFFFFFFFFFFFFFFFFFFFFFFFFFFFFFFC,
    0x51953EB9618E1C9A1F929A21A0B68540EEA2DA725B99B315F3B8B489918EF109E156193951EC7E937B1652C0BD3BB1BF073573DF883D2C34F1EF451FD46B503F00⟩,
  ⟨"sect409k1", general 36,
    .binary 0x2000000000000000000000000000000000000000000000000000000000000000000000000000000008000000000000000000001,
    0, 1⟩,
  ⟨"sect409r1", general 37,
    .binary 0x2000000000000000000000000000000000000000000000000000000000000000000000000000000008000000000000000000001,
    1,
    0x21A5C2C8EE9FEB5C4B9A753B7B476B7FD6422EF1F3DD674761FA99D6AC27C8A9A197B272822F6CD57A55AA4F50AE317B13545F⟩,
  ⟨"sect571k1", general 38,
    .binary 0x80000000000000000000000000000000000000000000000000000000000000000000000000000000000000000000000000000000000000000000000000000000000000000000425,
    0, 1⟩,
  ⟨"sect571r1", general 39,
    .binary 0x80000000000000000000000000000000000000000000000000000000000000000000000000000000000000000000000000000000000000000000000000000000000000000000425,
    1,
    0x2F40E7E2221F295DE297117B7F3D62F5C6A97FFCB8CEFF1CD6BA8CE4A9A18AD84FFABBD8EFA59332BE7AD6756A66E294AFD185A78FF12AA520E4DE739BACA0C7FFEFF7F2955727A⟩]

/-- Identifiers of curves over prime fields. -/
def overPrime (n : UInt8) : List UInt8 := [0x2A, 0x86, 0x48, 0xCE, 0x3D, 0x03, 0x01, n]

/-- The curves with these identifiers. -/
def primeCurves : List Curve := [
  ⟨"prime192v1", overPrime 1, .prime 0xFFFFFFFFFFFFFFFFFFFFFFFFFFFFFFFEFFFFFFFFFFFFFFFF,
    0xFFFFFFFFFFFFFFFFFFFFFFFFFFFFFFFEFFFFFFFFFFFFFFFC,
    0x64210519E59C80E70FA7E9AB72243049FEB8DEECC146B9B1⟩,
  ⟨"prime192v2", overPrime 2, .prime 0xFFFFFFFFFFFFFFFFFFFFFFFFFFFFFFFEFFFFFFFFFFFFFFFF,
    0xFFFFFFFFFFFFFFFFFFFFFFFFFFFFFFFEFFFFFFFFFFFFFFFC,
    0xCC22D6DFB95C6B25E49C0D6364A4E5980C393AA21668D953⟩,
  ⟨"prime192v3", overPrime 3, .prime 0xFFFFFFFFFFFFFFFFFFFFFFFFFFFFFFFEFFFFFFFFFFFFFFFF,
    0xFFFFFFFFFFFFFFFFFFFFFFFFFFFFFFFEFFFFFFFFFFFFFFFC,
    0x22123DC2395A05CAA7423DAECCC94760A7D462256BD56916⟩,
  ⟨"prime239v1", overPrime 4,
    .prime 0x7FFFFFFFFFFFFFFFFFFFFFFF7FFFFFFFFFFF8000000000007FFFFFFFFFFF,
    0x7FFFFFFFFFFFFFFFFFFFFFFF7FFFFFFFFFFF8000000000007FFFFFFFFFFC,
    0x6B016C3BDCF18941D0D654921475CA71A9DB2FB27D1D37796185C2942C0A⟩,
  ⟨"prime239v2", overPrime 5,
    .prime 0x7FFFFFFFFFFFFFFFFFFFFFFF7FFFFFFFFFFF8000000000007FFFFFFFFFFF,
    0x7FFFFFFFFFFFFFFFFFFFFFFF7FFFFFFFFFFF8000000000007FFFFFFFFFFC,
    0x617FAB6832576CBBFED50D99F0249C3FEE58B94BA0038C7AE84C8C832F2C⟩,
  ⟨"prime239v3", overPrime 6,
    .prime 0x7FFFFFFFFFFFFFFFFFFFFFFF7FFFFFFFFFFF8000000000007FFFFFFFFFFF,
    0x7FFFFFFFFFFFFFFFFFFFFFFF7FFFFFFFFFFF8000000000007FFFFFFFFFFC,
    0x255705FA2A306654B1F4CB03D6A750A30C250102D4988717D9BA15AB6D3E⟩,
  ⟨"prime256v1", overPrime 7,
    .prime 0xFFFFFFFF00000001000000000000000000000000FFFFFFFFFFFFFFFFFFFFFFFF,
    0xFFFFFFFF00000001000000000000000000000000FFFFFFFFFFFFFFFFFFFFFFFC,
    0x5AC635D8AA3A93E7B3EBBD55769886BC651D06B0CC53B0F63BCE3C3E27D2604B⟩]

/-- Identifiers of curves over binary fields. -/
def overBinary (n : UInt8) : List UInt8 := [0x2A, 0x86, 0x48, 0xCE, 0x3D, 0x03, 0x00, n]

/-- The curves with these identifiers. -/
def binaryCurves : List Curve := [
  ⟨"c2pnb163v1", overBinary 1, .binary 0x80000000000000000000000000000000000000107,
    0x72546B5435234A422E0789675F432C89435DE5242, 0xC9517D06D5240D3CFF38C74B20B6CD4D6F9DD4D9⟩,
  ⟨"c2pnb163v2", overBinary 2, .binary 0x80000000000000000000000000000000000000107,
    0x108B39E77C4B108BED981ED0E890E117C511CF072, 0x667ACEB38AF4E488C407433FFAE4F1C811638DF20⟩,
  ⟨"c2pnb163v3", overBinary 3, .binary 0x80000000000000000000000000000000000000107,
    0x7A526C63D3E25A256A007699F5447E32AE456B50E, 0x3F7061798EB99E238FD6F1BF95B48FEEB4854252B⟩,
  ⟨"c2pnb176v1", overBinary 4, .binary 0x100000000000000000000000000000000080000000007,
    0xE4E6DB2995065C407D9D39B8D0967B96704BA8E9C90B, 0x5DDA470ABE6414DE8EC133AE28E9BBD7FCEC0AE0FFF2⟩,
  ⟨"c2tnb191v1", overBinary 5, .binary 0x800000000000000000000000000000000000000000000201,
    0x2866537B676752636A68F56554E12640276B649EF7526267,
    0x2E45EF571F00786F67B0081B9495A3D95462F5DE0AA185EC⟩,
  ⟨"c2tnb191v2", overBinary 6, .binary 0x800000000000000000000000000000000000000000000201,
    0x401028774D7777C7B7666D1366EA432071274F89FF01E718,
    0x620048D28BCBD03B6249C99182B7C8CD19700C362C46A01⟩,
  ⟨"c2tnb191v3", overBinary 7, .binary 0x800000000000000000000000000000000000000000000201,
    0x6C01074756099122221056911C77D77E77A777E7E7E77FCB,
    0x71FE1AF926CF847989EFEF8DB459F66394D90F32AD3F15E8⟩,
  ⟨"c2pnb208w1", overBinary 10, .binary 0x10000000000000000000000000000000800000000000000000007, 0,
    0xC8619ED45A62E6212E1160349E2BFA844439FAFC2A3FD1638F9E⟩,
  ⟨"c2tnb239v1", overBinary 11,
    .binary 0x800000000000000000000000000000000000000000000000001000000001,
    0x32010857077C5431123A46B808906756F543423E8D27877578125778AC76,
    0x790408F2EEDAF392B012EDEFB3392F30F4327C0CA3F31FC383C422AA8C16⟩,
  ⟨"c2tnb239v2", overBinary 12,
    .binary 0x800000000000000000000000000000000000000000000000001000000001,
    0x4230017757A767FAE42398569B746325D45313AF0766266479B75654E65F,
    0x5037EA654196CFF0CD82B2C14A2FCF2E3FF8775285B545722F03EACDB74B⟩,
  ⟨"c2tnb239v3", overBinary 13,
    .binary 0x800000000000000000000000000000000000000000000000001000000001,
    0x1238774666A67766D6676F778E676B66999176666E687666D8766C66A9F,
    0x6A941977BA9F6A435199ACFC51067ED587F519C5ECB541B8E44111DE1D40⟩,
  ⟨"c2pnb272w1", overBinary 16,
    .binary 0x10000000000000000000000000000000000000000000000000000010000000000000B,
    0x91A091F03B5FBA4AB2CCF49C4EDD220FB028712D42BE752B2C40094DBACDB586FB20,
    0x7167EFC92BB2E3CE7C8AAAFF34E12A9C557003D7C73A6FAF003F99F6CC8482E540F7⟩,
  ⟨"c2pnb304w1", overBinary 17,
    .binary 0x10000000000000000000000000000000000000000000000000000000000000000000000000807,
    0xFD0D693149A118F651E6DCE6802085377E5F882D1B510B44160074C1288078365A0396C8E681,
    0xBDDB97E555A50A908E43B01C798EA5DAA6788F1EA2794EFCF57166B8C14039601E55827340BE⟩,
  ⟨"c2tnb359v1", overBinary 18,
    .binary 0x800000000000000000000000000000000000000000000000000000000000000000000000100000000000000001,
    0x5667676A654B20754F356EA92017D946567C46675556F19556A04616B567D223A5E05656FB549016A96656A557,
    0x2472E2D0197C49363F1FE7F5B6DB075D52B6947D135D8CA445805D39BC345626089687742B6329E70680231988⟩,
  ⟨"c2pnb368w1", overBinary 19,
    .binary 0x100000000000000000000000000000000000000000000000000000000000000000000002000000000000000000007,
    0xE0D2EE25095206F5E2A4F9ED229F1F256E79A0E2B455970D8D0D865BD94778C576D62F0AB7519CCD2A1A906AE30D,
    0xFC1217D4320A90452C760A58EDCD30C8DD069B3C34453837A34ED50CB54917E1C2112D84D164F444F8F74786046A⟩,
  ⟨"c2tnb431r1", overBinary 20,
    .binary 0x800000000000000000000000000000000000000000000000000000000000000000000000000001000000000000000000000000000001,
    0x1A827EF00DD6FC0E234CAF046C6A5D8A85395B236CC4AD2CF32A0CADBDC9DDF620B0EB9906D0957F6C6FEACD615468DF104DE296CD8F,
    0x10D9B4A3D9047D8B154359ABFB1B7F5485B04CEB868237DDC9DEDA982A679A5A919B626D4E50A8DD731B107A9962381FB5D807BF2618⟩]

/-- Identifiers of curves for wireless devices. -/
def wireless (n : UInt8) : List UInt8 := [0x67, 0x2B, 0x01, 0x04, n]

/-- The curves with these identifiers. -/
def wirelessCurves : List Curve := [
  ⟨"wap-wsg-idm-ecid-wtls1", wireless 1, .binary 0x20000000000000000000000000201, 1, 1⟩,
  ⟨"wap-wsg-idm-ecid-wtls3", wireless 3, .binary 0x800000000000000000000000000000000000000C9, 1, 1⟩,
  ⟨"wap-wsg-idm-ecid-wtls4", wireless 4, .binary 0x20000000000000000000000000201,
    0x3088250CA6E7C7FE649CE85820F7, 0xE8BEE4D3E2260744188BE0E9C723⟩,
  ⟨"wap-wsg-idm-ecid-wtls5", wireless 5, .binary 0x80000000000000000000000000000000000000107,
    0x72546B5435234A422E0789675F432C89435DE5242, 0xC9517D06D5240D3CFF38C74B20B6CD4D6F9DD4D9⟩,
  ⟨"wap-wsg-idm-ecid-wtls6", wireless 6, .prime 0xDB7C2ABF62E35E668076BEAD208B,
    0xDB7C2ABF62E35E668076BEAD2088, 0x659EF8BA043916EEDE8911702B22⟩,
  ⟨"wap-wsg-idm-ecid-wtls7", wireless 7, .prime 0xFFFFFFFFFFFFFFFFFFFFFFFFFFFFFFFEFFFFAC73,
    0xFFFFFFFFFFFFFFFFFFFFFFFFFFFFFFFEFFFFAC70, 0xB4E134D3FB59EB8BAB57274904664D5AF50388BA⟩,
  ⟨"wap-wsg-idm-ecid-wtls8", wireless 8, .prime 0xFFFFFFFFFFFFFFFFFFFFFFFFFDE7, 0, 3⟩,
  ⟨"wap-wsg-idm-ecid-wtls9", wireless 9, .prime 0xFFFFFFFFFFFFFFFFFFFFFFFFFFFFFFFFFFFC808F, 0, 3⟩,
  ⟨"wap-wsg-idm-ecid-wtls10", wireless 10,
    .binary 0x20000000000000000000000000000000000000004000000000000000001, 0, 1⟩,
  ⟨"wap-wsg-idm-ecid-wtls11", wireless 11,
    .binary 0x20000000000000000000000000000000000000004000000000000000001, 1,
    0x66647EDE6C332C7F8C0923BB58213B333B20E9CE4281FE115F7D8F90AD⟩,
  ⟨"wap-wsg-idm-ecid-wtls12", wireless 12,
    .prime 0xFFFFFFFFFFFFFFFFFFFFFFFFFFFFFFFF000000000000000000000001,
    0xFFFFFFFFFFFFFFFFFFFFFFFFFFFFFFFEFFFFFFFFFFFFFFFFFFFFFFFE,
    0xB4050A850C04B3ABF54132565044B0B7D7BFD8BA270B39432355FFB4⟩]

/-- Identifiers of curves that have been found from seeds. -/
def seeded (n : UInt8) : List UInt8 := [0x2B, 0x24, 0x03, 0x03, 0x02, 0x08, 0x01, 0x01, n]

/-- The curves with these identifiers. -/
def seededCurves : List Curve := [
  ⟨"brainpoolP160r1", seeded 1, .prime 0xE95E4A5F737059DC60DFC7AD95B3D8139515620F,
    0x340E7BE2A280EB74E2BE61BADA745D97E8F7C300, 0x1E589A8595423412134FAA2DBDEC95C8D8675E58⟩,
  ⟨"brainpoolP160t1", seeded 2, .prime 0xE95E4A5F737059DC60DFC7AD95B3D8139515620F,
    0xE95E4A5F737059DC60DFC7AD95B3D8139515620C, 0x7A556B6DAE535B7B51ED2C4D7DAA7A0B5C55F380⟩,
  ⟨"brainpoolP192r1", seeded 3, .prime 0xC302F41D932A36CDA7A3463093D18DB78FCE476DE1A86297,
    0x6A91174076B1E0E19C39C031FE8685C1CAE040E5C69A28EF,
    0x469A28EF7C28CCA3DC721D044F4496BCCA7EF4146FBF25C9⟩,
  ⟨"brainpoolP192t1", seeded 4, .prime 0xC302F41D932A36CDA7A3463093D18DB78FCE476DE1A86297,
    0xC302F41D932A36CDA7A3463093D18DB78FCE476DE1A86294,
    0x13D56FFAEC78681E68F9DEB43B35BEC2FB68542E27897B79⟩,
  ⟨"brainpoolP224r1", seeded 5, .prime 0xD7C134AA264366862A18302575D1D787B09F075797DA89F57EC8C0FF,
    0x68A5E62CA9CE6C1C299803A6C1530B514E182AD8B0042A59CAD29F43,
    0x2580F63CCFE44138870713B1A92369E33E2135D266DBB372386C400B⟩,
  ⟨"brainpoolP224t1", seeded 6, .prime 0xD7C134AA264366862A18302575D1D787B09F075797DA89F57EC8C0FF,
    0xD7C134AA264366862A18302575D1D787B09F075797DA89F57EC8C0FC,
    0x4B337D934104CD7BEF271BF60CED1ED20DA14C08B3BB64F18A60888D⟩,
  ⟨"brainpoolP256r1", seeded 7,
    .prime 0xA9FB57DBA1EEA9BC3E660A909D838D726E3BF623D52620282013481D1F6E5377,
    0x7D5A0975FC2C3057EEF67530417AFFE7FB8055C126DC5C6CE94A4B44F330B5D9,
    0x26DC5C6CE94A4B44F330B5D9BBD77CBF958416295CF7E1CE6BCCDC18FF8C07B6⟩,
  ⟨"brainpoolP256t1", seeded 8,
    .prime 0xA9FB57DBA1EEA9BC3E660A909D838D726E3BF623D52620282013481D1F6E5377,
    0xA9FB57DBA1EEA9BC3E660A909D838D726E3BF623D52620282013481D1F6E5374,
    0x662C61C430D84EA4FE66A7733D0B76B7BF93EBC4AF2F49256AE58101FEE92B04⟩,
  ⟨"brainpoolP320r1", seeded 9,
    .prime 0xD35E472036BC4FB7E13C785ED201E065F98FCFA6F6F40DEF4F92B9EC7893EC28FCD412B1F1B32E27,
    0x3EE30B568FBAB0F883CCEBD46D3F3BB8A2A73513F5EB79DA66190EB085FFA9F492F375A97D860EB4,
    0x520883949DFDBC42D3AD198640688A6FE13F41349554B49ACC31DCCD884539816F5EB4AC8FB1F1A6⟩,
  ⟨"brainpoolP320t1", seeded 10,
    .prime 0xD35E472036BC4FB7E13C785ED201E065F98FCFA6F6F40DEF4F92B9EC7893EC28FCD412B1F1B32E27,
    0xD35E472036BC4FB7E13C785ED201E065F98FCFA6F6F40DEF4F92B9EC7893EC28FCD412B1F1B32E24,
    0xA7F561E038EB1ED560B3D147DB782013064C19F27ED27C6780AAF77FB8A547CEB5B4FEF422340353⟩,
  ⟨"brainpoolP384r1", seeded 11,
    .prime 0x8CB91E82A3386D280F5D6F7E50E641DF152F7109ED5456B412B1DA197FB71123ACD3A729901D1A71874700133107EC53,
    0x7BC382C63D8C150C3C72080ACE05AFA0C2BEA28E4FB22787139165EFBA91F90F8AA5814A503AD4EB04A8C7DD22CE2826,
    0x4A8C7DD22CE28268B39B55416F0447C2FB77DE107DCD2A62E880EA53EEB62D57CB4390295DBC9943AB78696FA504C11⟩,
  ⟨"brainpoolP384t1", seeded 12,
    .prime 0x8CB91E82A3386D280F5D6F7E50E641DF152F7109ED5456B412B1DA197FB71123ACD3A729901D1A71874700133107EC53,
    0x8CB91E82A3386D280F5D6F7E50E641DF152F7109ED5456B412B1DA197FB71123ACD3A729901D1A71874700133107EC50,
    0x7F519EADA7BDA81BD826DBA647910F8C4B9346ED8CCDC64E4B1ABD11756DCE1D2074AA263B88805CED70355A33B471EE⟩,
  ⟨"brainpoolP512r1", seeded 13,
    .prime 0xAADD9DB8DBE9C48B3FD4E6AE33C9FC07CB308DB3B3C9D20ED6639CCA703308717D4D9B009BC66842AECDA12AE6A380E62881FF2F2D82C68528AA6056583A48F3,
    0x7830A3318B603B89E2327145AC234CC594CBDD8D3DF91610A83441CAEA9863BC2DED5D5AA8253AA10A2EF1C98B9AC8B57F1117A72BF2C7B9E7C1AC4D77FC94CA,
    0x3DF91610A83441CAEA9863BC2DED5D5AA8253AA10A2EF1C98B9AC8B57F1117A72BF2C7B9E7C1AC4D77FC94CADC083E67984050B75EBAE5DD2809BD638016F723⟩,
  ⟨"brainpoolP512t1", seeded 14,
    .prime 0xAADD9DB8DBE9C48B3FD4E6AE33C9FC07CB308DB3B3C9D20ED6639CCA703308717D4D9B009BC66842AECDA12AE6A380E62881FF2F2D82C68528AA6056583A48F3,
    0xAADD9DB8DBE9C48B3FD4E6AE33C9FC07CB308DB3B3C9D20ED6639CCA703308717D4D9B009BC66842AECDA12AE6A380E62881FF2F2D82C68528AA6056583A48F0,
    0x7CBBBCF9441CFAB76E1890E46884EAE321F70C0BCB4981527897504BEC3E36A62BCDFA2304976540F6450085F2DAE145C22553B465763689180EA2571867423E⟩]

/-- The curve of a scheme of its own. -/
def sm2 : Curve :=
  ⟨"SM2", [0x2A, 0x81, 0x1C, 0xCF, 0x55, 0x01, 0x82, 0x2D],
    .prime 0xFFFFFFFEFFFFFFFFFFFFFFFFFFFFFFFFFFFFFFFF00000000FFFFFFFFFFFFFFFF,
    0xFFFFFFFEFFFFFFFFFFFFFFFFFFFFFFFFFFFFFFFF00000000FFFFFFFFFFFFFFFC,
    0x28E9FA9E9D9F5E344D5A9E4BCF6509A7F39789F515AB8F92DDBCBD414D940E93⟩

def named : List Curve :=
  generalCurves ++ primeCurves ++ binaryCurves ++ wirelessCurves ++ seededCurves ++ [sm2]

def ofIdentifier? (identifier : List UInt8) : Option Curve :=
  named.find? (·.identifier = identifier)

end ClusterInventory.Signing.Curve
