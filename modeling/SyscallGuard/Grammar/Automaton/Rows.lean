set_option autoImplicit false

/-! # Rows of the automaton

The automaton has one row for each of its states, written as a number. `Automaton.Row.decode` says
how a number is read. The states are the LR(1) item sets of the grammar, merged where the merged
state neither confuses two tokens nor changes an action, the end of the source being as easily
confused as the end of a line; they are sorted by the size of their rows,
after the fault state (number 0, which has no row) and the start state (number 1). -/

namespace SyscallGuard.Automaton

/-- The rows, by state. -/
def rowCodes : List Nat := [
  0x0,
  0x100000000000000000000000200b00fdbe3f6f3fcba3f6e0fdb63f6d0fdac3f6a8fda83f698fda43f688fda03f660fd963ba539690e5a2b9684e59fb967ce59eb9678e59db9674e59cb9670e59bb966ae5da39766e5d939762e5d7b975ce596b96591d15b9652d5d43574f081335746d3104203f080f4dd3b080e35737080ccdc31370bb202ce58a41f1b07c639612e583b960d07c141f034a8007edd0fdb81fb6c3f6d07ed90fdb01fb5c3f6b20f52529a010f0821e0843c00877e10ef83dde87bbc5287602ce0055b00db40866610ac80718a93b03895e710b8e5568421d2bc38a4c6d494c805972bb2c9b65420ca20e93032208e63d07072390b0821268a1949029ca030ec025fae1,
  0x800000000000000000000000803c03f6f8fdbcff2e8fdb83f6d8fdb43f6b0fdaa3f6a0fda63f690fda23f680fd983f658ee94e5a43968ae5a13967ee59f3967ae59e39676e59d39672e59c3966ee59ab9768e5d9b9764e5d8b975ee5d73965ae59647456e594b5750d5d3c204cd5d1b4c41080fc203d374ec2038d5cdc2033370c4dc2ec80b396290a86c2a18e584b960ee58342a050a8087edd0fdb81fb6c3f6d07ed90fdb01fb5c3f6b20f52529a010f0821e0843c00877e10ef83dde87bbc5287602ce0055b00db40866610ac80718a93b03895e710b8e5568421d2bc38a4c6d494c805972bb2c9b65420ca20e93032208e63d07072390b0821268a1949029ca030ec025f2e1,
  0x329fe28003fcaff0001d7ce535803c03f6f8fdbcff2e8fdb83f6d8fdb43f6b0fdaa3f6a0fda63f690fda23f680fd983f658ee94e5a43968ae5a13967ee59f3967ae59e39676e59d39672e59c3966ee59ab9768e5d9b9764e5d8b975ee5d73965ae59647456e594b5750d5d3c204cd5d1b4c41080fc203d374ec2038d5cdc2033370c4dc2ec80b396291d06c7418e584b960ee583474051d00c7edd8fdb91fb6e3f6d47ed98fdb11fb5e3f6b60f52d29a110f0a21e0c43c08877f10efa3ddec7bbcd287702ce2055b40db48866710aca0718e93b0b895f710bae556c421dabc39a4c6f494cc0597abb2d9b65620ca60e93832219b23f07076390b882136961b5482dca038ec025f2e1,
  0x248000000003000000008000000fdbe3f6f3fcba3f6e0fdb63f6d0fdac3f6a8fda83f698fda43f688fda03f660fd963ba539690e5a2b9684e59fb967ce59eb9678e59db9674e59cb9670e59bc8c6ce59ab9768e5d9b9764e5d8b975ee5d73965ae59638a57231539652d5d43574f081335746d3104203f080f4dd3b080e35737080ccdc31370bb202ce58a39612e583b960c1fb743f6e07edb0fdb41fb643f6c07ed70fdac83d494a68043c20878210f0021df843be0f77a1eef14a1d80b380156c036d02199842b201c62a4ec0e2579c42e3955a10874af0e2931b525320165caecb26d950832883a4c0c8828d0f41c1c8e42c20849ca030ed025dac1,
  0x240000000003000000008000000fdbe3f6f3fcba3f6e0fdb63f6d0fdac3f6a8fda83f698fda43f688fda03f660fd963ba539690e5a2b9684e59fb967ce59eb9678e59db9674e59cb9670e59bc956ce59ab9768e5d9b9764e5d8b975ee5d73965ae59638a57255539652d5d43574f081335746d3104203f080f4dd3b080e35737080ccdc31370bb202ce58a39612e583b960c1fb743f6e07edb0fdb41fb643f6c07ed70fdac83d494a68043c20878210f0021df843be0f77a1eef14a1d80b380156c036d02199842b201c62a4ec0e2579c42e3955a10874af0e2931b525320165caecb26d950832883a4c0c8828d0f41c1c8e42c20849ca030ed025dac1,
  0x278000000003000000008000000fdbe3f6f3fcba3f6e0fdb63f6d0fdac3f6a8fda83f698fda43f688fda03f660fd963ba539690e5a2b9684e59fb967ce59eb9678e59db9674e59cb9670e59bc976ce59ab9768e5d9b9764e5d8b975ee5d73965ae59638a5725d539652d5d43574f081335746d3104203f080f4dd3b080e35737080ccdc31370bb202ce58a39612e583b960c1fb743f6e07edb0fdb41fb643f6c07ed70fdac83d494a68043c20878210f0021df843be0f77a1eef14a1d80b380156c036d02199842b201c62a4ec0e2579c42e3955a10874af0e2931b525320165caecb26d950832883a4c0c8828d0f41c1c8e42c20849ca030ed025dac1,
  0x264000000003000000008000000fdbe3f6f3fcba3f6e0fdb63f6d0fdac3f6a8fda83f698fda43f688fda03f660fd963ba539690e5a2b9684e59fb967ce59eb9678e59db9674e59cb9670e59bc986ce59ab9768e5d9b9764e5d8b975ee5d73965ae59638a57261539652d5d43574f081335746d3104203f080f4dd3b080e35737080ccdc31370bb202ce58a39612e583b960c1fb743f6e07edb0fdb41fb643f6c07ed70fdac83d494a68043c20878210f0021df843be0f77a1eef14a1d80b380156c036d02199842b201c62a4ec0e2579c42e3955a10874af0e2931b525320165caecb26d950832883a4c0c8828d0f41c1c8e42c20849ca030ed025dac1,
  0x268000000003000000008000000fdbe3f6f3fcba3f6e0fdb63f6d0fdac3f6a8fda83f698fda43f688fda03f660fd963ba539690e5a2b9684e59fb967ce59eb9678e59db9674e59cb9670e59bc996ce59ab9768e5d9b9764e5d8b975ee5d73965ae59638a57265539652d5d43574f081335746d3104203f080f4dd3b080e35737080ccdc31370bb202ce58a39612e583b960c1fb743f6e07edb0fdb41fb643f6c07ed70fdac83d494a68043c20878210f0021df843be0f77a1eef14a1d80b380156c036d02199842b201c62a4ec0e2579c42e3955a10874af0e2931b525320165caecb26d950832883a4c0c8828d0f41c1c8e42c20849ca030ed025dac1,
  0x66000000000c000000020000003f6f8fdbcff2e8fdb83f6d8fdb43f6b0fdaa3f6a0fda63f690fda23f680fd983f658ee94e5a43968ae5a13967ee59f3967ae59e39676e59d39672e59c3966f209b3966ae5da39766e5d939762e5d7b975ce596b9658ef95b9652d5d43574f081335746d3104203f080f4dd3b080e35737080ccdc31370bb202ce58a39612e583b960c1fb743f6e07edb0fdb41fb643f6c07ed70fdac83d494a68043c20878210f0021df843be0f77a1eef14a1d80b380156c036d02199842b201c62a4ec0e2579c42e3955a10874af0e2931b525320165caecb26d950832883a4c0c8828d0f41c1c8e42c20849ca030ed025d2c1,
  0x67000000000c000000020000003f6f8fdbcff2e8fdb83f6d8fdb43f6b0fdaa3f6a0fda63f690fda23f680fd983f658ee94e5a43968ae5a13967ee59f3967ae59e39676e59d39672e59c3966f22db3966ae5da39766e5d939762e5d7b975ce596b9658ef95b9652d5d43574f081335746d3104203f080f4dd3b080e35737080ccdc31370bb202ce58a39612e583b960c1fb743f6e07edb0fdb41fb643f6c07ed70fdac83d494a68043c20878210f0021df843be0f77a1eef14a1d80b380156c036d02199842b201c62a4ec0e2579c42e3955a10874af0e2931b525320165caecb26d950832883a4c0c8828d0f41c1c8e42c20849ca030ed025d2c1,
  0x7edf1fb79fe5d1fb707edb1fb687ed61fb547ed41fb4c7ed21fb447ed01fb307ecb1dd29cb4872d15cb4272cfdcb3e72cf5cb3c72cedcb3a72ce5cb3872cde96b672cd5cbb472ecdcbb272ec5cbaf72eb9cb2d72cb1c52ba5aa9cb296aea1aba784099aba369882101f8407a6e9d84071ab9b840666e189b85d901672c51cb0972c1dcb060fdba1fb703f6d87eda0fdb21fb603f6b87ed641ea4a534021e1043c10878010efc21df07bbd0f778a50ec059c00ab601b6810ccc215900e3152760712bce2171caad0843a57871498da92990f8300165caecb26d950832883a4c0c8828d0f41c1c8e42c20849ca030ed021dad1,
  0x1d4000000003000000008000000fdbe3f6f3fcba3f6e0fdb63f6d0fdac3f6a8fda83f698fda43f688fda03f660fd963ba539690e5a2b9684e59fb967ce59eb9678e59db9674e59cb9670e59bb966ae5da39766e5d939762e5d7b975ce596b9658ec95b9652d5d43574f081335746d3104203f080f4dd3b080e35737080ccdc31370bb202ce58a39612e583b960c1fb743f6e07edb0fdb41fb643f6c07ed70fdac83d494a68043c20878210f0021df843be0f77a1eef14a1d80b380156c036d02199842b201c62a4ec0e2579c42e3955a10874af0e2931b525320165caecb26d950832883a4c0c8828d0f41c1c8e42c20849ca030ec025cac1,
  0x7edf1fb79fe5d1fb707edb1fb687ed61fb547ed41fb4c7ed21fb447ed01fb307ecb1dd29cb4872d15cb4272cfdcb3e72cf5cb3c72cedcb3a72ce5cb3872cdeaa3672cd5cbb472ecdcbb272ec5cbaf72eb9cb2d72cb1c52baa8a9cb296aea1aba784099aba369882101f8407a6e9d84071ab9b840666e189b85d901672c51cb0972c1dcb060fdba1fb703f6d87eda0fdb21fb603f6b87ed641ea4a534021e1043c10878010efc21df07bbd0f778a50ec059c00ab601b6810ccc215900e3152760712bce2171caad0843a57871498da929918d300165caecb26d950832883a4c0c8828d0f41c1c8e42c20849ca030ed021dad1,
  0x7edf1fb79fe5d1fb707edb1fb687ed61fb547ed41fb4c7ed21fb447ed01fb307ecb1dd29cb4872d15cb4272cfdcb3e72cf5cb3c72cedcb3a72ce5cb3872cdeaeb672cd5cbb472ecdcbb272ec5cbaf72eb9cb2d72cb1c52babaa9cb296aea1aba784099aba369882101f8407a6e9d84071ab9b840666e189b85d901672c51cb0972c1dcb060fdba1fb703f6d87eda0fdb21fb603f6b87ed641ea4a534021e1043c10878010efc21df07bbd0f778a50ec059c00ab601b6810ccc215900e3152760712bce2171caad0843a57871498da9299454300165caecb26d950832883a4c0c8828d0f41c1c8e42c20849ca030ed021dad1,
  0x7edf1fb79fe5d1fb707edb1fb687ed61fb547ed41fb4c7ed21fb447ed01fb307ecb1dd29cb4872d15cb4272cfdcb3e72cf5cb3c72cedcb3a72ce5cb3872cdeb33672cd5cbb472ecdcbb272ec5cbaf72eb9cb2d72cb1c52bacca9cb296aea1aba784099aba369882101f8407a6e9d84071ab9b840666e189b85d901672c51cb0972c1dcb060fdba1fb703f6d87eda0fdb21fb603f6b87ed641ea4a534021e1043c10878010efc21df07bbd0f778a50ec059c00ab601b6810ccc215900e3152760712bce2171caad0843a57871498da92991fa300165caecb26d950832883a4c0c8828d0f41c1c8e42c20849ca030ed021dad1,
  0x7edf1fb79fe5d1fb707edb1fb687ed61fb547ed41fb4c7ed21fb447ed01fb307ecb1dd29cb4872d15cb4272cfdcb3e72cf5cb3c72cedcb3a72ce5cb3872cdeb6b672cd5cbb472ecdcbb272ec5cbaf72eb9cb2d72cb1c52badaa9cb296aea1aba784099aba369882101f8407a6e9d84071ab9b840666e189b85d901672c51cb0972c1dcb060fdba1fb703f6d87eda0fdb21fb603f6b87ed641ea4a534021e1043c10878010efc21df07bbd0f778a50ec059c00ab601b6810ccc215900e3152760712bce2171caad0843a57871498da929912c300165caecb26d950832883a4c0c8828d0f41c1c8e42c20849ca030ed021dad1,
  0x7edf1fb79fe5d1fb707edb1fb687ed61fb547ed41fb4c7ed21fb447ed01fb307ecb1dd29cb4872d15cb4272cfdcb3e72cf5cb3c72cedcb3a72ce5cb3872cdeba3672cd5cbb472ecdcbb272ec5cbaf72eb9cb2d72cb1c52bae8a9cb296aea1aba784099aba369882101f8407a6e9d84071ab9b840666e189b85d901672c51cb0972c1dcb060fdba1fb703f6d87eda0fdb21fb603f6b87ed641ea4a534021e1043c10878010efc21df07bbd0f778a50ec059c00ab601b6810ccc215900e3152760712bce2171caad0843a57871498da929915d300165caecb26d950832883a4c0c8828d0f41c1c8e42c20849ca030ed021dad1,
  0x7edf1fb79fe5d1fb707edb1fb687ed61fb547ed41fb4c7ed21fb447ed01fb307ecb1dd29cb4872d15cb4272cfdcb3e72cf5cb3c72cedcb3a72ce5cb3872cdebd3672cd5cbb472ecdcbb272ec5cbaf72eb9cb2d72cb1c52baf4a9cb296aea1aba784099aba369882101f8407a6e9d84071ab9b840666e189b85d901672c51cb0972c1dcb060fdba1fb703f6d87eda0fdb21fb603f6b87ed641ea4a534021e1043c10878010efc21df07bbd0f778a50ec059c00ab601b6810ccc215900e3152760712bce2171caad0843a57871498da9299226300165caecb26d950832883a4c0c8828d0f41c1c8e42c20849ca030ed021dad1,
  0xfdbe3f6f3fcba3f6e0fdb63f6d0fdac3f6a8fda83f698fda43f688fda03f660fd963ba539690e5a2b9684e59fb967ce59eb9678e59db9674e59cb9670e59bb966ae5da39766e5d939762e5d7b975ce596b9658ec95b9652d5d43574f081335746d3104203f080f4dd3b080e35737080ccdc31370bb202ce58a39612e583b960c1fb743f6e07edb0fdb41fb643f6c07ed70fdac83d494a68043c20878210f0021df843be0f77a1eef14a1d80b380156c036d02199842b201c62a4ec0e2579c42e3955a10874af0e2931b525320165caecb26d950832883a4c0c8828d0f41c1c8e42c20849ca030ec021cac1,
  0xfdbe3f6f3fcba3f6e0fdb63f6d0fdac3f6a8fda83f698fda43f688fda03f660fd963ba539690e5a2b9684e59fb967ce59eb9678e59db9674e59cb9670e59bb966ae5da39766e5d939762e5d7b975ce596b9658ef95b9652d5d43574f081335746d3104203f080f4dd3b080e35737080ccdc31370bb202ce58a39612e583b960c1fb743f6e07edb0fdb41fb643f6c07ed70fdac83d494a68043c20878210f0021df843be0f77a1eef14a1d80b380156c036d02199842b201c62a4ec0e2579c42e3955a10874af0e2931b525320165caecb26d950832883a4c0c8828d0f41c1c8e42c20849ca030ec021cac1,
  0x95df2577a0cdd2577095db2576895d62575495d42574c95d22574495d02573095cb1ff2a70c19c3027f349fcce7f329fcc67f2f9fcba97ad740a5aba86ae9e31266ae8da6208c47e311ea1c76311c6ae6e3119a42629097642584aee895dc12bb6257684aec895d812bae2575919a92c0d00ab84157042ae0055bf0ab7c254f44a9e044370ce3a57871498da929900b2e5765936ca8669403220a383c37c48290312302141f1,
  0x2577c95de8337495dc2576c95da2575895d52575095d32574895d12574095cc2572c90caa631a7f349fcce7f329fcc67f2f9fcba982d6aea1aba78c499aba369882311f8c47a871d8c471ab9b8c4669098a425d911612bba257704aed895da12bb2257604aeb895d6466a4b03402ae1055c10ab80156fc2adf0953d12a7819c74af0e2931b525327425caecb26d950cd2806441470786f8912302131d1,
  0x2140000000000000000040000012bbe4aef419ba4aee12bb64aed12bac4aea92ba84ae992ba44ae892ba04ae612b9648a54fe693f99cfe653f98cfe5f3f9753f5ad5d43574f189335746d3104623f188f50e3b188e35737188cd2131484bb282c257744aee095db12bb4257644aec095d712bac8cd496068055c20ab82157002adf855be12a7a254f0338e95e1c52636a4a64aecb26d950cd2806441470786f8912302529c1,
  0x2180000000000000000040000012bbe4aef419ba4aee12bb64aed12bac4aea92ba84ae992ba44ae892ba04ae612b9648a54fe693f99cfe653f98cfe5f3f975455ad5d43574f189335746d3104623f188f50e3b188e35737188cd2131484bb282c257744aee095db12bb4257644aec095d712bac8cd496068055c20ab82157002adf855be12a7a254f0338e95e1c52636a4a64aecb26d950cd2806441470786f8912302529c1,
  0x2180000000000000000040000012bbe4aef419ba4aee12bb64aed12bac4aea92ba84ae992ba44ae892ba04ae612b9648a54fe693f99cfe653f98cfe5f3f975465ad5d43574f189335746d3104623f188f50e3b188e35737188cd2131484bb282c257744aee095db12bb4257644aec095d712bac8cd496068055c20ab82157002adf855be12a7a254f0338e95e1c52636a4a64aecb26d950cd2806441470786f8912302529c1,
  0x21c0000000000000000040000012bbe4aef419ba4aee12bb64aed12bac4aea92ba84ae992ba44ae892ba04ae612b9648a54fe693f99cfe653f98cfe5f3f975485ad5d43574f189335746d3104623f188f50e3b188e35737188cd2131484bb282c257744aee095db12bb4257644aec095d712bac8cd496068055c20ab82157002adf855be12a7a254f0338e95e1c52636a4a64aecb26d950cd2806441470786f8912302529c1,
  0x12bbe4aef419ba4aee12bb64aed12bac4aea92ba84ae992ba44ae892ba04ae612b963fa54fe693f99cfe653f98cfe5f3f9752e5ad5d43574f189335746d3104623f188f50e3b188e35737188cd2131484bb272c257744aee095db12bb4257644aec095d712bac8cd496068055c20ab82157002adf855be12a7a254f0338e95e1c52636a4a64aecb26d950cd2806441470786f8912302129c1,
  0x7c000000000c00000002000038742f9d0bd052e9d0b8742d9d0b4742b1d0aa742a1d0a674291d0a274281d098742598b94d5d43574f175335746d31045d3f174f50a3b174e35737174cd2031480bb9f2c3a174742e0e85b1d0b43a164742c0e8571d0ac8c3496028052c20a58214b00295f852be1ca7a394f032ce95e1c52636a4a64aecb26d950ca280644146c786d891b0024f1c2,
  0xc65f31979ba5d31970c65b3196a3ed9863623e5731958c65531950c65331948c65131940c64c3192d0bca6aea1aba770099aba369881c01f7007a821d70071ab9b700668f98a3e5c632e8c65c18cb631968632c8c65818cae3195917292bfd009f8413f0427e004fbf09f7c314f4629e0641d2bc38a4c6d494c8831801e2e5765936ca86394032209be3d4ec606b8918702101f1,
  0xc65f31979ba5d31970c65b3196a55d98b7623e5731958c65531950c65331948c65131940c64c3192d0bca6aea1aba770099aba369881c01f7007a821d70071ab9b700668f98a3e5c632e8c65c18cb631968632c8c65818cae3195917292bfd009f8413f0427e004fbf09f7c314f4629e0641d2bc38a4c6d494c8ca9801e2e5765936ca86394032209be3d564606b8918702101f1,
  0xc65f31979ba5d31970c65b3196a5c598c1623e5731958c65531950c65331948c65131940c64c3192d0bca6aea1aba770099aba369881c01f7007a821d70071ab9b700668f98a3e5c632e8c65c18cb631968632c8c65818cae3195917292bfd009f8413f0427e004fbf09f7c314f4629e0641d2bc38a4c6d494c8eb9801e2e5765936ca86394032209be3d588606b8918702101f1,
  0xc65f31979ba5d31970c65b3196a61598cb623e5731958c65531950c65331948c65131940c64c3192d0bca6aea1aba770099aba369881c01f7007a821d70071ab9b700668f98a3e5c632e8c65c18cb631968632c8c65818cae3195917292bfd009f8413f0427e004fbf09f7c314f4629e0641d2bc38a4c6d494c89a1801e2e5765936ca86394032209be3d5a4606b8918702101f1,
  0xc65f31979ba5d31970c65b3196a65598d5623e5731958c65531950c65331948c65131940c64c3192d0bca6aea1aba770099aba369881c01f7007a821d70071ab9b700668f98a3e5c632e8c65c18cb631968632c8c65818cae3195917292bfd009f8413f0427e004fbf09f7c314f4629e0641d2bc38a4c6d494c8b29801e2e5765936ca86394032209be3d5c0606b8918702101f1,
  0xc65f31979ba5d31970c65b3196a69598df623e5731958c65531950c65331948c65131940c64c3192d0bca6aea1aba770099aba369881c01f7007a821d70071ab9b700668f98a3e5c632e8c65c18cb631968632c8c65818cae3195917292bfd009f8413f0427e004fbf09f7c314f4629e0641d2bc38a4c6d494c9171801e2e5765936ca86394032209be3d5dc606b8918702101f1,
  0x18cbe632f374ba632e18cb6632d4f7b323ec47cae632b18caa632a18ca6632918ca2632818c986325a1794d5d43574ee01335746d3103803ee00f5043ae00e35736e00cd1f3147cb8c65d18cb83196c632d0c65918cb03195c632b22e5257fa013f0827e084fc009f7e13ef8629e8c53c0c83a57871498da92991133003c5caecb26d950c7280644137c786b8918702101e1,
  0x18cbe632f374ba632e18cb6632d4f7b323ec47cae632b18caa632a18ca6632918ca2632818c986325a1794d5d43574ee01335746d3103803ee00f5043ae00e35736e00cd1f3147cb8c65d18cb83196c632d0c65918cb03195c632b22e5257fa013f0827e084fc009f7e13ef8629e8c53c0c83a57871498da929911b3003c5caecb26d950c7280644137c786b8918702101e1,
  0x18cbe632f374ba632e18cb6632d4f7b323ec47cae632b18caa632a18ca6632918ca2632818c986325a1794d5d43574ee01335746d3103803ee00f5043ae00e35736e00cd1f3147cb8c65d18cb83196c632d0c65918cb03195c632b22e5257fa013f0827e084fc009f7e13ef8629e8c53c0c83a57871498da92991a23003c5caecb26d950c7280644137c786b8918702101e1,
  0x18cbe632f374ba632e18cb6632d4f7b323ec47cae632b18caa632a18ca6632918ca2632818c986325a1794d5d43574ee01335746d3103803ee00f5043ae00e35736e00cd1f3147cb8c65d18cb83196c632d0c65918cb03195c632b22e5257fa013f0827e084fc009f7e13ef8629e8c53c0c83a57871498da92991aa3003c5caecb26d950c7280644137c786b8918702101e1,
  0x18cbe632f374ba632e18cb6632d4f7b323ec47cae632b18caa632a18ca6632918ca2632818c986325a1794d5d43574ee01335746d3103803ee00f5043ae00e35736e00cd1f3147cb8c65d18cb83196c632d0c65918cb03195c632b22e5257fa013f0827e084fc009f7e13ef8629e8c53c0c83a57871498da92991e43003c5caecb26d950c7280644137c786b8918702101e1,
  0x18cbe632f374ba632e18cb6632d4f7b323ec47cae632b18caa632a18ca6632918ca2632818c986325a1794d5d43574ee01335746d3103803ee00f5043ae00e35736e00cd1f3147cb8c65d18cb83196c632d0c65918cb03195c632b22e5257fa013f0827e084fc009f7e13ef8629e8c53c0c83a57871498da92991ec3003c5caecb26d950c7280644137c786b8918702101e1,
  0x18cbe632f374ba632e18cb6632d4f7b323ec47cae632b18caa632a18ca6632918ca2632818c986325a1794d5d43574ee01335746d3103803ee00f5043ae00e35736e00cd1f3147cb8c65d18cb83196c632d0c65918cb03195c632b22e5257fa013f0827e084fc009f7e13ef8629e8c53c0c83a57871498da92991413003c5caecb26d950c7280644137c786b8918702101e1,
  0x18cbe632f374ba632e18cb6632d4f7b323ec47cae632b18caa632a18ca6632918ca2632818c986325a1794d5d43574ee01335746d3103803ee00f5043ae00e35736e00cd1f3147cb8c65d18cb83196c632d0c65918cb03195c632b22e5257fa013f0827e084fc009f7e13ef8629e8c53c0c83a57871498da92991493003c5caecb26d950c7280644137c786b8918702101e1,
  0x18cbe632f374ba632e18cb6632d4f7b323ec47cae632b18caa632a18ca6632918ca2632818c986325a1794d5d43574ee01335746d3103803ee00f5043ae00e35736e00cd1f3147cb8c65d18cb83196c632d0c65918cb03195c632b22e5257fa013f0827e084fc009f7e13ef8629e8c53c0c83a57871498da92991723003c5caecb26d950c7280644137c786b8918702101e1,
  0x18cbe632f374ba632e18cb6632d4f7b323ec47cae632b18caa632a18ca6632918ca2632818c986325a1794d5d43574ee01335746d3103803ee00f5043ae00e35736e00cd1f3147cb8c65d18cb83196c632d0c65918cb03195c632b22e5257fa013f0827e084fc009f7e13ef8629e8c53c0c83a57871498da929917a3003c5caecb26d950c7280644137c786b8918702101e1,
  0x18cbe632f374ba632e18cb6632d4f7b323ec47cae632b18caa632a18ca6632918ca2632818c986325a1794d5d43574ee01335746d3103803ee00f5043ae00e35736e00cd1f3147cb8c65d18cb83196c632d0c65918cb03195c632b22e5257fa013f0827e084fc009f7e13ef8629e8c53c0c83a57871498da929923b3003c5caecb26d950c7280644137c786b8918702101e1,
  0x18cbe632f374ba632e18cb6632d4f7b323ec47cae632b18caa632a18ca6632918ca2632818c986325a1794d5d43574ee01335746d3103803ee00f5043ae00e35736e00cd1f3147cb8c65d18cb83196c632d0c65918cb03195c632b22e5257fa013f0827e084fc009f7e13ef8629e8c53c0c83a57871498da92992433003c5caecb26d950c7280644137c786b8918702101e1,
  0x3197cc65e6e974c65c3196cc65a9ef6647d88f95cc65631954c6543194cc65231944c65031930c64b42f29aba86ae9dc0266ae8da6207007dc01ea0875c01c6ae6dc019a3e628f9718cba31970632d8c65a18cb231960632b8c65645ca4aff4027e104fc109f8013efc27df0c53d18a7819074af0e2931b5253203c5caecb26d950c7280644137c786b8918702101d1,
  0x892fa24bd06eea24b8892da24b4892b224aa892a224a68929224a289282249889259c99550985425ed5d43574f1b1335746d31046c3f1b0f5163b1b0e357371b0cd233148cbcee2c44974892e1125b224b444964892c11257224ac8e14960e805bc20b78216f002ddf85bbe2097a412f0350e95e1c52636a4a64aecb26d950d628064414787873891cb02101c1,
  0xc65f31979ba5d31970c65b3196a7c588f95cc65631954c6543194cc65231944c65031930c64b42f29aba86ae9dc0266ae8da6207007dc01ea0875c01c6ae6dc019a3e628f9718cba31970632d8c65a18cb231960632b8c65645ca4aff4027e104fc109f8013efc27df0c53d18a7819074af0e2931b5253203c5caecb26d950c7280644137c786b89187020f9d1,
  0x632f98cbcdd2e98cb8632d98cb4632b18caa632a18ca6632918ca2632818c986325a8494d5d43574ee01335746d3103803ee00f5043ae00e35736e00cd1f3147cb8c65d18cb83196c632d0c65918cb03195c632b22e5257fa013f0827e084fc009f7e13ef8629e8c53c0c83a57871498da92992bb2c9b65431ca295922bd220644137c786b89187020e9e1,
  0x3197cc65e6e974c65c3196cc65a31958c65531950c65331948c651319423fcd31930c64b40529aba86ae9dc0266ae8da6207007dc01ea0875c01c6ae6dc019a3e628f9718cba31970632d8c65a18cb231960632b8c65645ca4aff4025e104bc10978012efc25df0c53d18a7817c74af0e2931b525325765936ca86794032209be3c420506b89208020f1d1,
  0x3197cc65e6e974c65c3196cc65a31958c65531950c65331948c65131940c64c3192d2cca6aea1aba77009a3da56ae8da6207007dc01ea0875c01c6ae6dc01976a61da9718cba31970632d8c65a18cb231960632b8c65645ca4aff4027e104fc109f8013efc27df0c53d18a780b4b0320e95e1c52636a4a64aecb26d950d5280644137c786b8920a020f1d1,
  0x3197cc65e6e974c65c3196cc65a31958c65531950c65331948c65131940c64c3192d4f4a6aea1aba770099aba369881c01f7007a821d70071ab9b700668f98a3e5e408f18cba31970632d8c65a18cb231960632b8c65645ca4aff4027e104fc109f8013efc27df0c53d18a7819074af0e2931b525325765936ca863942f2220644137c786b890eb020f1d1,
  0x3197cc65e6e974c65c3196cc65a31958c65531950c65331948c65131940c64c3192d03ca6aea1aba770099aba369881c01f7007a821d70071ab9b700668f98a3e5e809618cba31970632d8c65a18cb231960632b8c65645ca4aff4027e104fc109f8013efc27df0c53d18a78124dc320e95e1c52636a4a64aecb26d950c7280644137c786b89187020f1d1,
  0x3197cc65e6e974c65c3196cc65a31958c65531950c65331948c65131940c64c3192d03ca6aea1aba770099aba369881c01f7007a821d70071ab9b700668f98a3e5e811618cba31970632d8c65a18cb231960632b8c65645ca4aff4027e104fc109f8013efc27df0c53d18a78124dc320e95e1c52636a4a64aecb26d950c7280644137c786b89187020f1d1,
  0x3197cc65e6e974c65c3196cc65a31958c65531950c65331948c65131940c64c3192d02ca6aea1aba770099aba369881c01f7007a821d70071ab9b700668f98a3e5ea09618cba31970632d8c65a18cb231960632b8c65645ca4aff403061060c10c180182fc305f0c53d18a781a074af0e2931b525327845caecb26d950d1280644137c786b89225020f1d1,
  0x3197cc65e6e974c65c3196cc65a31958c65531950c65331948c65131940c64c3192d4bca6aea1aba77009a3da56ae8da6207007dc01ea0875c01c6ae6dc01976a61da9718cba31970632d8c65a18cb231960632b8c65645ca4aff4027e104fc109f8013efc27df0c53d18a7819074af0e2931b525325765936ca86a942ec220644137c786b8920a020f1d1,
  0x3197cc65e6e974c65c3196cc65a31958c65531950c65331948c651319427ccd31930c64b43b29aba86ae9dc0266ae8da6207007dc01ea0875c01c6ae6dc019a3e628f9718cba31970632d8c65a18cb231960632b8c65645ca4aff4025e104bc10978012efc25df0c53d18a7817c74af0e2931b525325765936ca86794032209be3c45c506b89208020f1d1,
  0x3197cc65e6e974c65c3196cc65a31958c65531950c65331948c651319427ccd31930c64b43b29aba86ae9dc0266ae8da6207007dc01ea0875c01c6ae6dc019a3e628f9718cba31970632d8c65a18cb231960632b8c65645ca4aff4025e104bc10978012efc25df0c53d18a7817c74af0e2931b525325765936ca86794032209be3c474506b89208020f1d1,
  0x3197cc65e6e974c65c3196cc65a31958c65531950c65331948c6513194256cd31930c64b41729aba86ae9dc0266ae8da6207007dc01ea0875c01c6ae6dc019a3e628f9718cba31970632d8c65a18cb231960632b8c65645ca4aff4025e104bc10978012efc25df0c53d18a7817c74af0e2931b525325765936ca86794032209be3c65c506b89208020f1d1,
  0x3197cc65e6e974c65c3196cc65a31958c65531950c65331948c65131940c64c3192d4f4a6aea1aba77009a55256ae8da6207007dc01ea0875c01c6ae6dc01976a61da9718cba31970632d8c65a18cb231960632b8c65645ca4aff4027e104fc109f8013efc27df0c53d18a7819074af0e2931b525325765936ca86a942f2220644137c786b8920a020f1d1,
  0x3197cc65e6e974c65c3196cc65a31958c65531950c65331948c651319427ccd31930c64b43b29aba86ae9dc0266ae8da6207007dc01ea0875c01c6ae6dc019a3e628f9718cba31970632d8c65a18cb231960632b8c65645ca4aff4025e104bc10978012efc25df0c53d18a7817c74af0e2931b525325765936ca86794032209be3c698506b89208020f1d1,
  0x3197cc65e6e974c65c3196cc65a31958c65531950c65331948c651319427ccd31930c64b43b29aba86ae9dc0266ae8da6207007dc01ea0875c01c6ae6dc019a3e628f9718cba31970632d8c65a18cb231960632b8c65645ca4aff4025e104bc10978012efc25df0c53d18a7817c74af0e2931b525325765936ca86794032209be3c6b0506b89208020f1d1,
  0x3197cc65e6e974c65c3196cc65a31958c65531950c65331948c651319425d4d31930c64b41d29aba86ae9dc0266ae8da6207007dc01ea0875c01c6ae6dc019a3e628f9718cba31970632d8c65a18cb231960632b8c65645ca4aff4025e104bc10978012efc25df0c53d18a7817c74af0e2931b525325765936ca86794032209be3c764506b89208020f1d1,
  0x3197cc65e6e974c65c3196cc65a31958c65531950c65331948c651319427ccd31930c64b43b29aba86ae9dc0266ae8da6207007dc01ea0875c01c6ae6dc019a3e628f9718cba31970632d8c65a18cb231960632b8c65645ca4aff4025e104bc10978012efc25df0c53d18a7817c74af0e2931b525325765936ca86794032209be3c7a0506b89208020f1d1,
  0x3197cc65e6e974c65c3196cc65a31958c65531950c65331948c651319427ccd31930c64b43b29aba86ae9dc0266ae8da6207007dc01ea0875c01c6ae6dc019a3e628f9718cba31970632d8c65a18cb231960632b8c65645ca4aff4025e104bc10978012efc25df0c53d18a7817c74af0e2931b525325765936ca86794032209be3c7b8506b89208020f1d1,
  0x3197cc65e6e974c65c3196cc65a31958c65531950c65331948c65131942624d31930c64b42329aba86ae9dc0266ae8da6207007dc01ea0875c01c6ae6dc019a3e628f9718cba31970632d8c65a18cb231960632b8c65645ca4aff4025e104bc10978012efc25df0c53d18a7817c74af0e2931b525325765936ca86794032209be3c4d8506b89208020f1d1,
  0x3197cc65e6e974c65c3196cc65a31958c65531950c65331948c651319427ccd31930c64b43b29aba86ae9dc0266ae8da6207007dc01ea0875c01c6ae6dc019a3e628f9718cba31970632d8c65a18cb231960632b8c65645ca4aff4025e104bc10978012efc25df0c53d18a7817c74af0e2931b525325765936ca86794032209be3c514506b89208020f1d1,
  0x3197cc65e6e974c65c3196cc65a31958c65531950c65331948c651319427ccd31930c64b43b29aba86ae9dc0266ae8da6207007dc01ea0875c01c6ae6dc019a3e628f9718cba31970632d8c65a18cb231960632b8c65645ca4aff4025e104bc10978012efc25df0c53d18a7817c74af0e2931b525325765936ca86794032209be3c52c506b89208020f1d1,
  0x3197cc65e6e974c65c3196cc65a31958c65531950c65331948c65131942664d31930c64b42529aba86ae9dc0266ae8da6207007dc01ea0875c01c6ae6dc019a3e628f9718cba31970632d8c65a18cb231960632b8c65645ca4aff4025e104bc10978012efc25df0c53d18a7817c74af0e2931b525325765936ca86794032209be3c59c506b89208020f1d1,
  0x3197cc65e6e974c65c3196cc65a31958c65531950c65331948c651319427ccd31930c64b43b29aba86ae9dc0266ae8da6207007dc01ea0875c01c6ae6dc019a3e628f9718cba31970632d8c65a18cb231960632b8c65645ca4aff4025e104bc10978012efc25df0c53d18a7817c74af0e2931b525325765936ca86794032209be3c5d8506b89208020f1d1,
  0x3197cc65e6e974c65c3196cc65a31958c65531950c65331948c651319427ccd31930c64b43b29aba86ae9dc0266ae8da6207007dc01ea0875c01c6ae6dc019a3e628f9718cba31970632d8c65a18cb231960632b8c65645ca4aff4025e104bc10978012efc25df0c53d18a7817c74af0e2931b525325765936ca86794032209be3c5f0506b89208020f1d1,
  0x3197cc65e6e974c65c3196cc65a31958c65531950c65331948c651319426a4d31930c64b42729aba86ae9dc0266ae8da6207007dc01ea0875c01c6ae6dc019a3e628f9718cba31970632d8c65a18cb231960632b8c65645ca4aff4025e104bc10978012efc25df0c53d18a7817c74af0e2931b525325765936ca86794032209be3c8c0506b89208020f1d1,
  0x3197cc65e6e974c65c3196cc65a31958c65531950c65331948c651319427ccd31930c64b43b29aba86ae9dc0266ae8da6207007dc01ea0875c01c6ae6dc019a3e628f9718cba31970632d8c65a18cb231960632b8c65645ca4aff4025e104bc10978012efc25df0c53d18a7817c74af0e2931b525325765936ca86794032209be3c8fc506b89208020f1d1,
  0x3197cc65e6e974c65c3196cc65a31958c65531950c65331948c651319427ccd31930c64b43b29aba86ae9dc0266ae8da6207007dc01ea0875c01c6ae6dc019a3e628f9718cba31970632d8c65a18cb231960632b8c65645ca4aff4025e104bc10978012efc25df0c53d18a7817c74af0e2931b525325765936ca86794032209be3c914506b89208020f1d1,
  0x3197cc65e6e974c65c3196cc65a31958c65531950c65331948c65131940c64c3192d334a6aea1aba77009a3da56ae8da6207007dc01ea0875c01c6ae6dc01976a61da9718cba31970632d8c65a18cb231960632b8c65645ca4aff4027e104fc109f8013efc27df0c53d18a780d4b0320e95e1c52636a4a64aecb26d950d5280644137c786b8920a020f1d1,
  0x3197cc65e6e974c65c3196cc65a31958c65531950c65331948c65131940c64c3192d374a6aea1aba77009a3da56ae8da6207007dc01ea0875c01c6ae6dc01976a61da9718cba31970632d8c65a18cb231960632b8c65645ca4aff4027e104fc109f8013efc27df0c53d18a780deb0320e95e1c52636a4a64aecb26d950d5280644137c786b8920a020f1d1,
  0x3197cc65e6e974c65c3196cc65a31958c65531950c65331948c65131940c64c3192d3aca6aea1aba77009a3da56ae8da6207007dc01ea0875c01c6ae6dc01976a61da9718cba31970632d8c65a18cb231960632b8c65645ca4aff4027e104fc109f8013efc27df0c53d18a780e8b0320e95e1c52636a4a64aecb26d950d5280644137c786b8920a020f1d1,
  0x3197cc65e6e974c65c3196cc65a31958c65531950c65331948c65131940c64c3192d3d4a6aea1aba77009a3da56ae8da6207007dc01ea0875c01c6ae6dc01976a61da9718cba31970632d8c65a18cb231960632b8c65645ca4aff4027e104fc109f8013efc27df0c53d18a780f2b0320e95e1c52636a4a64aecb26d950d5280644137c786b8920a020f1d1,
  0x3197cc65e6e974c65c3196cc65a31958c65531950c65331948c65131940c64c3192d3fca6aea1aba77009a3da56ae8da6207007dc01ea0875c01c6ae6dc01976a61da9718cba31970632d8c65a18cb231960632b8c65645ca4aff4027e104fc109f8013efc27df0c53d18a780fcb0320e95e1c52636a4a64aecb26d950d5280644137c786b8920a020f1d1,
  0xc65f31979ba5d31970c65b31968c65631954c6543194cc65231944c65031930c64b50929aba86ae9dc0266ae8da6207007dc01ea0875c01c6ae6dc019a3e628f9718cba31970632d8c65a18cb231960632b8c65645ca4aff4027e104fc109f8013efc27df0c53d18a7819074af0e2931b525325765936ca863942bd220644137c786b89187020e9d1,
  0xc65f31979ba5d31970c65b31968c65631954c6543194cc65231944c65031930c64b50f29aba86ae9dc0266ae8da6207007dc01ea0875c01c6ae6dc019a3e628f9718cba31970632d8c65a18cb231960632b8c65645ca4aff4027e104fc109f8013efc27df0c53d18a7819074af0e2931b525325765936ca86394032209be3c35c480b83187020e9d1,
  0x742f9d0bd052e9d0b8742d9d0b4742b1d0aa742a1d0a674291d0a274281d098742598b94d5d43574f175335746d31045d3f174f50a3b174e35737174cd2031480bbb32c3a174742e0e85b1d0b43a164742c0e8571d0ac8c3496028052c20a58214b00295f852be1ca7a394f032ce95e1c52636a4a64aecb26d950ca280644146c786d891b0020f1c1,
  0x742f9d0bd052e9d0b8742d9d0b4742b1d0aa742a1d0a674291d0a274281d098742598b94d5d43574f175335746d31045d3f174f50a3b174e35737174cd2031480bbb42c3a174742e0e85b1d0b43a164742c0e8571d0ac8c3496028052c20a58214b00295f852be1ca7a394f032ce95e1c52636a4a64aecb26d950ca280644146c786d891b0020f1c1,
  0x742f9d0bd052e9d0b8742d9d0b4742b1d0aa742a1d0a674291d0a274281d098742598b94d5d43574f175335746d31045d3f174f50a3b174e35737174cd2031480bbb72c3a174742e0e85b1d0b43a164742c0e8571d0ac8c3496028052c20a58214b00295f852be1ca7a394f032ce95e1c52636a4a64aecb26d950ca280644146c786d891b0020f1c1,
  0x742f9d0bd052e9d0b8742d9d0b4742b1d0aa742a1d0a674291d0a274281d098742598b94d5d43574f175335746d31045d3f174f50a3b174e35737174cd2031480bbb92c3a174742e0e85b1d0b43a164742c0e8571d0ac8c3496028052c20a58214b00295f852be1ca7a394f032ce95e1c52636a4a64aecb26d950ca280644146c786d891b0020f1c1,
  0xc65f31979ba5d31970c65b31968c65631954c6543194cc65231944c65031930c64b51329aba86ae9dc0266ae8da6207007dc01ea0875c01c6ae6dc019a3e628f9718cba31970632d8c65a18cb231960632b8c65645ca4aff4027e104fc109f8013efc27df0c53d18a7819074af0e2931b525325765936ca86394032209be3c35c480c83187020e9d1,
  0x632f98cbcdd2e98cb8632d98cb4632b18caa632a18ca6632918ca2632818c986325a0794d5d43574ee01335746d3103803ee00f5043ae00e35736e00cd1f3147cbd402c31974632e0c65b18cb431964632c0c65718cac8b9495fe804fc209f8213f0027df84fbe18a7a314f0320e95e1c52636a4a64aecb26d950c7280644137c786b89187020f1c1,
  0x632f98cbcdd2e98cb8632d98cb4632b18caa632a18ca6632918ca2632818c986325a1a94d5d43574ee01335746d3103803ee00f5043ae00e35736e00cd1f3147cbd022c31974632e0c65b18cb431964632c0c65718cac8b9495fe804fc209f8213f0027df84fbe18a7a314f0320e95e1c52636a4a64aecb26d950c7280644137c786b89187020f1c1,
  0xc65f31979ba5d31970c65b31968c65631954c6543194cc65231944c65031930c64b4bd29aba86ae9dc0266ae8da6207007dc01ea0875c01c6ae6dc019a3e628f9718cba31970632d8c65a18cb231960632b8c65645ca4aff4027e104fc109f8013efc27df0c53d18a7819074af0e2931b525325765936ca86394110220644137c786b89187020e9d1,
  0x742f9d0bd052e9d0b8742d9d0b4742b1d0aa742a1d0a674291d0a274281d098742598b94d5d43574f175335746d31045d3f174f50a3b174e35737174cd2031480bbc92c3a174742e0e85b1d0b43a164742c0e8571d0ac8c3496028052c20a58214b00295f852be1ca7a394f032ce95e1c52636a4a64aecb26d950ca280644146c786d891b0020f1c1,
  0x742f9d0bd052e9d0b8742d9d0b4742b1d0aa742a1d0a674291d0a274281d098742598b94d5d43574f175335746d31045d3f174f50a3b174e35737174cd2031480bbca2c3a174742e0e85b1d0b43a164742c0e8571d0ac8c3496028052c20a58214b00295f852be1ca7a394f032ce95e1c52636a4a64aecb26d950ca280644146c786d891b0020f1c1,
  0x742f9d0bd052e9d0b8742d9d0b4742b1d0aa742a1d0a674291d0a274281d098742598b94d5d43574f175335746d31045d3f174f50a3b174e35737174cd2031480bbcb2c3a174742e0e85b1d0b43a164742c0e8571d0ac8c3496028052c20a58214b00295f852be1ca7a394f032ce95e1c52636a4a64aecb26d950ca280644146c786d891b0020f1c1,
  0x742f9d0bd052e9d0b8742d9d0b4742b1d0aa742a1d0a674291d0a274281d098742598b94d5d43574f175335746d31045d3f174f50a3b174e35737174cd2031480bbcc2c3a174742e0e85b1d0b43a164742c0e8571d0ac8c3496028052c20a58214b00295f852be1ca7a394f032ce95e1c52636a4a64aecb26d950ca280644146c786d891b0020f1c1,
  0xc65f31979ba5d31970c65b31968c65631954c6543194cc65231944c65031930c64b4c729aba86ae9dc0266ae8da6207007dc01ea0875c01c6ae6dc019a3e628f9718cba31970632d8c65a18cb231960632b8c65645ca4aff4025e104bc10978012efc25df0c53d18a7817c74af0e2931b525325765936ca86794032209be3c448506b89208020e9d1,
  0xc65f31979ba5d31970c65b31968c65631954c6543194cc65231944c65031930c64b4c129aba86ae9dc0266ae8da6207007dc01ea0875c01c6ae6dc019a3e628f9718cba31970632d8c65a18cb231960632b8c65645ca4aff4027e104fc109f8013efc27df0c53d18a7819074af0e2931b525325765936ca86394119220644137c786b89187020e9d1,
  0x742f9d0bd052e9d0b8742d9d0b4742b1d0aa742a1d0a674291d0a274281d098742598b94d5d43574f175335746d31045d3f174f50a3b174e35737174cd2031480bbd72c3a174742e0e85b1d0b43a164742c0e8571d0ac8c3496028052c20a58214b00295f852be1ca7a394f032ce95e1c52636a4a64aecb26d950ca280644146c786d891b0020f1c1,
  0x742f9d0bd052e9d0b8742d9d0b4742b1d0aa742a1d0a674291d0a274281d098742598b94d5d43574f175335746d31045d3f174f50a3b174e35737174cd2031480bbd82c3a174742e0e85b1d0b43a164742c0e8571d0ac8c3496028052c20a58214b00295f852be1ca7a394f032ce95e1c52636a4a64aecb26d950ca280644146c786d891b0020f1c1,
  0xc65f31979ba5d31970c65b31968c65631954c6543194cc65231944c65031930c64b4c729aba86ae9dc0266ae8da6207007dc01ea0875c01c6ae6dc019a3e628f9718cba31970632d8c65a18cb231960632b8c65645ca4aff4025e104bc10978012efc25df0c53d18a7817c74af0e2931b525325765936ca86794032209be3c468506b89208020e9d1,
  0x632f98cbcdd2e98cb8632d98cb4632b18caa632a18ca6632918ca263284f99a632618c96876535750d5d3b804cd5d1b4c40e00fb803d410eb8038d5cdb803347cc51f2e31974632e0c65b18cb431964632c0c65718cac8b9495fe804bc20978212f0025df84bbe18a7a314f02f8e95e1c52636a4a64aecb26d950cf280644137c786b89208020f1c1,
  0x632f98cbcdd2e98cb8632d98cb4632b18caa632a18ca6632918ca2632818c986325a0794d5d43574ee01335746d3103803ee00f5043ae00e35736e00cd1f3147cbd012c31974632e0c65b18cb431964632c0c65718cac8b9495fe804fc209f8213f0027df84fbe18a7a314f0320e95e1c52636a4a64aecb26d950c7280644137c786b89187020f1c1,
  0x632f98cbcdd2e98cb8632d98cb4632b18caa632a18ca6632918ca2632818c986325a0794d5d43574ee01335746d3103803ee00f5043ae00e35736e00cd1f3147cbd022c31974632e0c65b18cb431964632c0c65718cac8b9495fe804fc209f8213f0027df84fbe18a7a314f0320e95e1c52636a4a64aecb26d950c7280644137c786b89187020f1c1,
  0xc65f31979ba5d31970c65b31968c65631954c6543194cc65231944c65031930c64b52f29aba86ae9dc0266ae8da6207007dc01ea0875c01c6ae6dc019a3e628f9718cba31970632d8c65a18cb231960632b8c65645ca4aff4027e104fc109f8013efc27df0c53d18a7819074af0e2931b525325765936ca863942ec220644137c786b89187020e9d1,
  0x632f98cbcdd2e98cb8632d98cb4632b18caa632a18ca6632918ca2632818c986325a2394d5d43574ee01335746d3103803ee00f5043ae00e35736e00cd1f3147cbd012c31974632e0c65b18cb431964632c0c65718cac8b9495fe8060c20c18218300305f860be18a7a314f0340e95e1c52636a4a64aecb26d950d1280644137c786b89225020f1c1,
  0x632f98cbcdd2e98cb8632d98cb4632b18caa632a18ca6632918ca2632818c986325a2394d5d43574ee01335746d3103803ee00f5043ae00e35736e00cd1f3147cbd022c31974632e0c65b18cb431964632c0c65718cac8b9495fe8060c20c18218300305f860be18a7a314f0340e95e1c52636a4a64aecb26d950d1280644137c786b89225020f1c1,
  0xc65f31979ba5d31970c65b31968c65631954c6543194cc65231944c65031930c64b4d129aba86ae9dc0266ae8da6207007dc01ea0875c01c6ae6dc019a3e628f9718cba31970632d8c65a18cb231960632b8c65645ca4aff4027e104fc109f8013efc27df0c53d18a7819074af0e2931b525325765936ca8639419f220644137c786b89187020e9d1,
  0xc65f31979ba5d31970c65b31968c65631954c6543194cc65231944c65031930c64b4c729aba86ae9dc0266ae8da6207007dc01ea0875c01c6ae6dc019a3e628f9718cba31970632d8c65a18cb231960632b8c65645ca4aff4025e104bc10978012efc25df0c53d18a7817c74af0e2931b525325765936ca86794032209be3c684506b89208020e9d1,
  0xc65f31979ba5d31970c65b31968c65631954c6543194cc65231944c65031930c64b4d529aba86ae9dc0266ae8da6207007dc01ea0875c01c6ae6dc019a3e628f9718cba31970632d8c65a18cb231960632b8c65645ca4aff4027e104fc109f8013efc27df0c53d18a7819074af0e2931b525325765936ca863941a8220644137c786b89187020e9d1,
  0xc65f31979ba5d31970c65b31968c65631954c6543194cc65231944c65031930c64b4c729aba86ae9dc0266ae8da6207007dc01ea0875c01c6ae6dc019a3e628f9718cba31970632d8c65a18cb231960632b8c65645ca4aff4025e104bc10978012efc25df0c53d18a7817c74af0e2931b525325765936ca86794032209be3c6a4506b89208020e9d1,
  0xc65f31979ba5d31970c65b31968c65631954c6543194cc65231944c65031930c64b53d29aba86ae9dc0266ae8da6207007dc01ea0875c01c6ae6dc019a3e628f9718cba31970632d8c65a18cb231960632b8c65645ca4aff4027e104fc109f8013efc27df0c53d18a7819074af0e2931b525325765936ca863942f2220644137c786b89187020e9d1,
  0xc65f31979ba5d31970c65b31968c65631954c6543194cc65231944c65031930c64b4e129aba86ae9dc0266ae8da6207007dc01ea0875c01c6ae6dc019a3e628f9718cba31970632d8c65a18cb231960632b8c65645ca4aff4027e104fc109f8013efc27df0c53d18a7819074af0e2931b525325765936ca863941e1220644137c786b89187020e9d1,
  0xc65f31979ba5d31970c65b31968c65631954c6543194cc65231944c65031930c64b4c729aba86ae9dc0266ae8da6207007dc01ea0875c01c6ae6dc019a3e628f9718cba31970632d8c65a18cb231960632b8c65645ca4aff4025e104bc10978012efc25df0c53d18a7817c74af0e2931b525325765936ca86794032209be3c78c506b89208020e9d1,
  0xc65f31979ba5d31970c65b31968c65631954c6543194cc65231944c65031930c64b4e529aba86ae9dc0266ae8da6207007dc01ea0875c01c6ae6dc019a3e628f9718cba31970632d8c65a18cb231960632b8c65645ca4aff4027e104fc109f8013efc27df0c53d18a7819074af0e2931b525325765936ca863941ea220644137c786b89187020e9d1,
  0xc65f31979ba5d31970c65b31968c65631954c6543194cc65231944c65031930c64b4c729aba86ae9dc0266ae8da6207007dc01ea0875c01c6ae6dc019a3e628f9718cba31970632d8c65a18cb231960632b8c65645ca4aff4025e104bc10978012efc25df0c53d18a7817c74af0e2931b525325765936ca86794032209be3c7ac506b89208020e9d1,
  0xc65f31979ba5d31970c65b31968c65631954c6543194cc65231944c65031930c64b54b29aba86ae9dc0266ae8da6207007dc01ea0875c01c6ae6dc019a3e628f9718cba31970632d8c65a18cb231960632b8c65645ca4aff4027e104fc109f8013efc27df0c53d18a7819074af0e2931b525325765936ca863942f6220644137c786b89187020e9d1,
  0xc65f31979ba5d31970c65b31968c65631954c6543194cc65231944c65031930c64b4ed29aba86ae9dc0266ae8da6207007dc01ea0875c01c6ae6dc019a3e628f9718cba31970632d8c65a18cb231960632b8c65645ca4aff4027e104fc109f8013efc27df0c53d18a7819074af0e2931b525325765936ca8639413e220644137c786b89187020e9d1,
  0xc65f31979ba5d31970c65b31968c65631954c6543194cc65231944c65031930c64b4c729aba86ae9dc0266ae8da6207007dc01ea0875c01c6ae6dc019a3e628f9718cba31970632d8c65a18cb231960632b8c65645ca4aff4025e104bc10978012efc25df0c53d18a7817c74af0e2931b525325765936ca86794032209be3c500506b89208020e9d1,
  0xc65f31979ba5d31970c65b31968c65631954c6543194cc65231944c65031930c64b4ef29aba86ae9dc0266ae8da6207007dc01ea0875c01c6ae6dc019a3e628f9718cba31970632d8c65a18cb231960632b8c65645ca4aff4027e104fc109f8013efc27df0c53d18a7819074af0e2931b525325765936ca86394147220644137c786b89187020e9d1,
  0xc65f31979ba5d31970c65b31968c65631954c6543194cc65231944c65031930c64b4c729aba86ae9dc0266ae8da6207007dc01ea0875c01c6ae6dc019a3e628f9718cba31970632d8c65a18cb231960632b8c65645ca4aff4025e104bc10978012efc25df0c53d18a7817c74af0e2931b525325765936ca86794032209be3c520506b89208020e9d1,
  0xc65f31979ba5d31970c65b31968c65631954c6543194cc65231944c65031930c64b55929aba86ae9dc0266ae8da6207007dc01ea0875c01c6ae6dc019a3e628f9718cba31970632d8c65a18cb231960632b8c65645ca4aff4027e104fc109f8013efc27df0c53d18a7819074af0e2931b525325765936ca863942f9220644137c786b89187020e9d1,
  0xc65f31979ba5d31970c65b31968c65631954c6543194cc65231944c65031930c64b4f729aba86ae9dc0266ae8da6207007dc01ea0875c01c6ae6dc019a3e628f9718cba31970632d8c65a18cb231960632b8c65645ca4aff4027e104fc109f8013efc27df0c53d18a7819074af0e2931b525325765936ca8639416f220644137c786b89187020e9d1,
  0xc65f31979ba5d31970c65b31968c65631954c6543194cc65231944c65031930c64b4c729aba86ae9dc0266ae8da6207007dc01ea0875c01c6ae6dc019a3e628f9718cba31970632d8c65a18cb231960632b8c65645ca4aff4025e104bc10978012efc25df0c53d18a7817c74af0e2931b525325765936ca86794032209be3c5c4506b89208020e9d1,
  0xc65f31979ba5d31970c65b31968c65631954c6543194cc65231944c65031930c64b4f929aba86ae9dc0266ae8da6207007dc01ea0875c01c6ae6dc019a3e628f9718cba31970632d8c65a18cb231960632b8c65645ca4aff4027e104fc109f8013efc27df0c53d18a7819074af0e2931b525325765936ca86394178220644137c786b89187020e9d1,
  0xc65f31979ba5d31970c65b31968c65631954c6543194cc65231944c65031930c64b4c729aba86ae9dc0266ae8da6207007dc01ea0875c01c6ae6dc019a3e628f9718cba31970632d8c65a18cb231960632b8c65645ca4aff4025e104bc10978012efc25df0c53d18a7817c74af0e2931b525325765936ca86794032209be3c5e4506b89208020e9d1,
  0xc65f31979ba5d31970c65b31968c65631954c6543194cc65231944c65031930c64b56729aba86ae9dc0266ae8da6207007dc01ea0875c01c6ae6dc019a3e628f9718cba31970632d8c65a18cb231960632b8c65645ca4aff4027e104fc109f8013efc27df0c53d18a7819074af0e2931b525325765936ca863942fc220644137c786b89187020e9d1,
  0xc65f31979ba5d31970c65b31968c65631954c6543194cc65231944c65031930c64b50129aba86ae9dc0266ae8da6207007dc01ea0875c01c6ae6dc019a3e628f9718cba31970632d8c65a18cb231960632b8c65645ca4aff4027e104fc109f8013efc27df0c53d18a7819074af0e2931b525325765936ca86394238220644137c786b89187020e9d1,
  0xc65f31979ba5d31970c65b31968c65631954c6543194cc65231944c65031930c64b4c729aba86ae9dc0266ae8da6207007dc01ea0875c01c6ae6dc019a3e628f9718cba31970632d8c65a18cb231960632b8c65645ca4aff4025e104bc10978012efc25df0c53d18a7817c74af0e2931b525325765936ca86794032209be3c8e8506b89208020e9d1,
  0xc65f31979ba5d31970c65b31968c65631954c6543194cc65231944c65031930c64b50329aba86ae9dc0266ae8da6207007dc01ea0875c01c6ae6dc019a3e628f9718cba31970632d8c65a18cb231960632b8c65645ca4aff4027e104fc109f8013efc27df0c53d18a7819074af0e2931b525325765936ca86394241220644137c786b89187020e9d1,
  0xc65f31979ba5d31970c65b31968c65631954c6543194cc65231944c65031930c64b4c729aba86ae9dc0266ae8da6207007dc01ea0875c01c6ae6dc019a3e628f9718cba31970632d8c65a18cb231960632b8c65645ca4aff4025e104bc10978012efc25df0c53d18a7817c74af0e2931b525325765936ca86794032209be3c908506b89208020e9d1,
  0x18cbe632f374ba632e18cb6632d18cac632a98ca8632998ca4632898ca0632618c96a0e535750d5d3b804cd5d1b4c40e00fb803d410eb8038d5cdb80331d4c4752e31974632e0c65b18cb431964632c0c65718cac8b9495fe804bc20978212f0025df84bbe18a7a314f02f8e95e1c52636a4a64aecb26d950bd280644137c786b89187020e9c1,
  0xfdbe3f6f3fcba3f6e0fdb63f6d0fdac3f6a8fda83f698fda43f688fda03f660fd963c2535750d5d3c204cd5d1b4c41080fc203d374ec2038d5cdc2032e6cc39b2e1fb743f6e07edb0fdb41fb643f6c07ed70fdac83d494a68043c20878210f0021df843be0f77a1eef0210e95e1c52636a4a64aecb26d9508328064414687841090ef020e9c1,
  0xfdbe3f6f3fcba3f6e0fdb63f6d0fdac3f6a8fda83f698fda43f688fda03f660fd963c2535750d5d3c204cd5d1b4c41080fc203d374ec2038d5cdc2033370c4dc2e1fb743f6e07edb0fdb41fb643f6c07ed70fdac83d494a68043c20878210f0021df843be0f77a1eef0210e9611c52636a4a64aecb26d9508328064414687841090ef020e9c1,
  0x1d0be742f414ba742e1d0b6742d1d0ac742a9d0a874299d0a474289d0a074261d096706535750d5d3c5d4cd5d1b4c41174fc5d3d428ec5d38d5cdc5d33480c5202e3a174742e0e85b1d0b43a164742c0e8571d0ac8c3496028052c20a58214b00295f852be1ca7a394f032ce95e1c52636a4a64aecb26d950ca280644146c786d891b0020e9c1,
  0x1d0be742f414ba742e1d0b6742d1d0ac742a9d0a874299d0a474289d0a074261d09670a535750d5d3c5d4cd5d1b4c41174fc5d3d428ec5d38d5cdc5d33480c5202e3a174742e0e85b1d0b43a164742c0e8571d0ac8c3496028052c20a58214b00295f852be1ca7a394f032ce95e1c52636a4a64aecb26d950ca280644146c786d891b0020e9c1,
  0xfdbe3f6f3fcba3f6e0fdb63f6d0fdac3f6a8fda83f698fda43f688fda03f660fd963c2535750d5d3c204cd5d1b4c41080fc203d374ec2038d5cdc2033370c4dc2e1fb743f6e07edb0fdb41fb643f6c07ed70fdac83d494a68043c20878210f0021df843be0f77a1eef0210e95e1c52636a4a64aecb26d9508328064414687841090ef020e9c1,
  0x18cbe632f374ba632e18cb6632d18cac632a98ca8632998ca4632898ca0632618c96a22535750d5d3b804cd5d1b4c40e00fb803d410eb8038d5cdb803347cc51f2e31974632e0c65b18cb431964632c0c65718cac8b9495fe8060c20c18218300305f860be18a7a314f0340e95e1c52636a4a64aecb26d950d1280644137c786b89225020e9c1,
  0x18cbe632f374ba632e18cb6632d18cac632a98ca8632998ca4632898ca0632618c96962535750d5d3b804cd5d1b4c40e00fb803d410eb8038d5cdb803347cc51f2e31974632e0c65b18cb431964632c0c65718cac8b9495fe804bc20978212f0025df84bbe18a7a314f02f8e95e1c52636a4a64aecb26d950cf280644137c786b89208020e9c1,
  0x15cbe572f41aba572e15cb6572d15cac572a95ca8572995ca4572895ca0572615c9654e535750d5d3c674cd5d1b4c4119cfc673d448ec6738d5cdc6733488c5222e2b974572e0ae5b15cb42b964572c0ae5715cac8d74960a8058c20b182163002c5f858be15a7a2b4f0348e95e1c52636a4a64aecb26d950d32806441474787189152020e9c1,
  0xfdbe3f6f3fcba3f6e0fdb63f6d0fdac3f6a8fda83f698fda43f688fda03f660fd963ca535750d5d3c204cd5d1b4c41080fc203d374ec2038d5cdc2033370c4dc2e1fb743f6e07edb0fdb41fb643f6c07ed70fdac83d494a68043c20878210f0021df843be0f77a1eef0210e95e1c52636a4a64aecb26d9508328064414687841090ef020e9c1,
  0xfdbe3f6f3fcba3f6e0fdb63f6d0fdac3f6a8fda83f698fda43f688fda03f660fd963ce535750d5d3c204cd5d1b4c41080fc203d374ec2038d5cdc2033370c4dc2e1fb743f6e07edb0fdb41fb643f6c07ed70fdac83d494a68043c20878210f0021df843be0f77a1eef0210e95e1c52636a4a64aecb26d9508328064414687841090ef020e9c1,
  0x1d0be742f414ba742e1d0b6742d1d0ac742a9d0a874299d0a474289d0a074261d09671a535750d5d3c5d4cd5d1b4c41174fc5d3d428ec5d38d5cdc5d33480c5202e3a174742e0e85b1d0b43a164742c0e8571d0ac8c3496028052c20a58214b00295f852be1ca7a394f032ce95e1c52636a4a64aecb26d950ca280644146c786d891b0020e9c1,
  0xfdbe3f6f3fcba3f6e0fdb63f6d0fdac3f6a8fda83f698fda43f688fda03f660fd963d2535750d5d3c204cd5d1b4c41080fc203d374ec2038d5cdc2033370c4dc2e1fb743f6e07edb0fdb41fb643f6c07ed70fdac83d494a68043c20878210f0021df843be0f77a1eef0210e95e1c52636a4a64aecb26d9508328064414687841090ef020e9c1,
  0xfdbe3f6f3fcba3f6e0fdb63f6d0fdac3f6a8fda83f698fda43f688fda03f660fd963d6535750d5d3c204cd5d1b4c41080fc203d374ec2038d5cdc2033370c4dc2e1fb743f6e07edb0fdb41fb643f6c07ed70fdac83d494a68043c20878210f0021df843be0f77a1eef0210e95e1c52636a4a64aecb26d9508328064414687841090ef020e9c1,
  0xfdbe3f6f3fcba3f6e0fdb63f6d0fdac3f6a8fda83f698fda43f688fda03f660fd963da535750d5d3c204cd5d1b4c41080fc203d374ec2038d5cdc2033370c4dc2e1fb743f6e07edb0fdb41fb643f6c07ed70fdac83d494a68043c20878210f0021df843be0f77a1eef0210e95e1c52636a4a64aecb26d9508328064414687841090ef020e9c1,
  0x18cbe632f374ba632e18cb6632d18cac632a98ca8632998ca4632898ca0632618c96972535750d5d3b804cd5d1b4c40e00fb803d410eb8038d5cdb803347cc51f2e31974632e0c65b18cb431964632c0c65718cac8b9495fe8060c20c18218300305f860be18a7a314f0340e95e1c52636a4a64aecb26d950d1280644137c786b89225020e9c1,
  0x18cbe632f374ba632e18cb6632d18cac632a98ca8632998ca4632898ca0632618c96a32535750d5d3b804cd5d1b4c40e00fb803d410eb8038d5cdb803347cc51f2e31974632e0c65b18cb431964632c0c65718cac8b9495fe8060c20c18218300305f860be18a7a314f0340e95e1c52636a4a64aecb26d950d1280644137c786b89225020e9c1,
  0x18cbe632f374ba632e18cb6632d18cac632a98ca8632998ca4632898ca0632618c96b3e535750d5d3b804cd5d1b4c40e00fb803d410eb8038d5cdb803347cc51f2e31974632e0c65b18cb431964632c0c65718cac8b9495fe804fc209f8213f0027df84fbe18a7a314f0320e95e1c52636a4a64aecb26d950c7280644137c786b89187020e9c1,
  0x18cbe632f374ba632e18cb6632d18cac632a98ca8632998ca4632898ca0632618c96a42535750d5d3b804cd5d1b4c40e00fb803d410eb8038d5cdb803347cc51f2e31974632e0c65b18cb431964632c0c65718cac8b9495fe804fc209f8213f0027df84fbe18a7a314f0320e95e1c52636a4a64aecb26d950c7280644137c786b89187020e9c1,
  0x18cbe632f374ba632e18cb6632d18cac632a98ca8632998ca4632898ca0632618c96a4a535750d5d3b804cd5d1b4c40e00fb803d410eb8038d5cdb803347cc51f2e31974632e0c65b18cb431964632c0c65718cac8b9495fe804fc209f8213f0027df84fbe18a7a314f0320e95e1c52636a4a64aecb26d950c7280644137c786b89187020e9c1,
  0x18cbe632f374ba632e18cb6632d18cac632a98ca8632998ca4632898ca0632618c96a4e535750d5d3b804cd5d1b4c40e00fb803d410eb8038d5cdb803347cc51f2e31974632e0c65b18cb431964632c0c65718cac8b9495fe804fc209f8213f0027df84fbe18a7a314f0320e95e1c52636a4a64aecb26d950c7280644137c786b89187020e9c1,
  0x18cbe632f374ba632e18cb6632d18cac632a98ca8632998ca4632898ca0632618c96616535750d5d3b804cd5d1b4c40e00fb803d410eb8038d5cdb803347cc51f2e31974632e0c65b18cb431964632c0c65718cac8b9495fe804bc20978212f0025df84bbe18a7a314f02f8e95e1c52636a4a64aecb26d950cf280644137c786b89208020e9c1,
  0x18cbe632f374ba632e18cb6632d18cac632a98ca8632998ca4632898ca0632618c967d6535750d5d3b804cd5d1b4c40e00fb803d410eb8038d5cdb803347cc51f2e31974632e0c65b18cb431964632c0c65718cac8b9495fe804fc209f8213f0027df84fbe18a7a314f0320e95e1c52636a4a64aecb26d950c7280644137c786b89187020e9c1,
  0x18cbe632f374ba632e18cb6632d18cac632a98ca8632998ca4632898ca0632618c9661a535750d5d3b804cd5d1b4c40e00fb803d410eb8038d5cdb803347cc51f2e31974632e0c65b18cb431964632c0c65718cac8b9495fe804bc20978212f0025df84bbe18a7a314f02f8e95e1c52636a4a64aecb26d950cf280644137c786b89208020e9c1,
  0x18cbe632f374ba632e18cb6632d18cac632a98ca8632998ca4632898ca0632618c9687e535750d5d3b804cd5d1b4c40e00fb803d410eb8038d5cdb803347cc51f2e31974632e0c65b18cb431964632c0c65718cac8b9495fe804bc20978212f0025df84bbe18a7a314f02f8e95e1c52636a4a64aecb26d950cf280644137c786b89208020e9c1,
  0x18cbe632f374ba632e18cb6632d18cac632a98ca8632998ca4632898ca0632618c9698a535750d5d3b804cd5d1b4c40e00fb803d410eb8038d5cdb803347cc51f2e31974632e0c65b18cb431964632c0c65718cac8b9495fe804fc209f8213f0027df84fbe18a7a314f0320e95e1c52636a4a64aecb26d950c7280644137c786b89187020e9c1,
  0x18cbe632f374ba632e18cb6632d18cac632a98ca8632998ca4632898ca0632618c96882535750d5d3b804cd5d1b4c40e00fb803d410eb8038d5cdb803347cc51f2e31974632e0c65b18cb431964632c0c65718cac8b9495fe804bc20978212f0025df84bbe18a7a314f02f8e95e1c52636a4a64aecb26d950cf280644137c786b89208020e9c1,
  0x18cbe632f374ba632e18cb6632d18cac632a98ca8632998ca4632898ca0632618c96886535750d5d3b804cd5d1b4c40e00fb803d410eb8038d5cdb803347cc51f2e31974632e0c65b18cb431964632c0c65718cac8b9495fe804bc20978212f0025df84bbe18a7a314f02f8e95e1c52636a4a64aecb26d950cf280644137c786b89208020e9c1,
  0x18cbe632f374ba632e18cb6632d18cac632a98ca8632998ca4632898ca0632618c9688a535750d5d3b804cd5d1b4c40e00fb803d410eb8038d5cdb803347cc51f2e31974632e0c65b18cb431964632c0c65718cac8b9495fe804bc20978212f0025df84bbe18a7a314f02f8e95e1c52636a4a64aecb26d950cf280644137c786b89208020e9c1,
  0x18cbe632f374ba632e18cb6632d18cac632a98ca8632998ca4632898ca0632618c96616535750d5d3b804cd5d1b4c40e00fb803d410eb8038d5cdb803347cc51f2e31974632e0c65b18cb431964632c0c65718cac8b9495fe804fc209f8213f0027df84fbe18a7a314f0320e95e1c52636a4a64aecb26d950c7280644137c786b89187020e9c1,
  0x18cbe632f374ba632e18cb6632d18cac632a98ca8632998ca4632898ca0632618c9661a535750d5d3b804cd5d1b4c40e00fb803d410eb8038d5cdb803347cc51f2e31974632e0c65b18cb431964632c0c65718cac8b9495fe804fc209f8213f0027df84fbe18a7a314f0320e95e1c52636a4a64aecb26d950c7280644137c786b89187020e9c1,
  0x18cbe632f374ba632e18cb6632d18cac632a98ca8632998ca4632898ca0632618c966e6535750d5d3b804cd5d1b4c40e00fb803d410eb8038d5cdb803347cc51f2e31974632e0c65b18cb431964632c0c65718cac8b9495fe804fc209f8213f0027df84fbe18a7a314f0320e95e1c52636a4a64aecb26d950c7280644137c786b89187020e9c1,
  0x18cbe632f374ba632e18cb6632d18cac632a98ca8632998ca4632898ca0632618c966ea535750d5d3b804cd5d1b4c40e00fb803d410eb8038d5cdb803347cc51f2e31974632e0c65b18cb431964632c0c65718cac8b9495fe804fc209f8213f0027df84fbe18a7a314f0320e95e1c52636a4a64aecb26d950c7280644137c786b89187020e9c1,
  0x18cbe632f374ba632e18cb6632d18cac632a98ca8632998ca4632898ca0632618c966ee535750d5d3b804cd5d1b4c40e00fb803d410eb8038d5cdb803347cc51f2e31974632e0c65b18cb431964632c0c65718cac8b9495fe804fc209f8213f0027df84fbe18a7a314f0320e95e1c52636a4a64aecb26d950c7280644137c786b89187020e9c1,
  0x18cbe632f374ba632e18cb6632d18cac632a98ca8632998ca4632898ca0632618c966f2535750d5d3b804cd5d1b4c40e00fb803d410eb8038d5cdb803347cc51f2e31974632e0c65b18cb431964632c0c65718cac8b9495fe804fc209f8213f0027df84fbe18a7a314f0320e95e1c52636a4a64aecb26d950c7280644137c786b89187020e9c1,
  0x1d0be742f414ba742e1d0b6742d1d0ac742a9d0a874299d0a474289d0a074261d0966de535750d5d3c5d4cd5d1b4c41174fc5d3d428ec5d38d5cdc5d33480c5202e3a174742e0e85b1d0b43a164742c0e8571d0ac8c3496028052c20a58214b00295f852be1ca7a394f032ce95e1c52636a4a64aecb26d950ca280644146c786d891b0020e9c1,
  0x1d0be742f414ba742e1d0b6742d1d0ac742a9d0a874299d0a474289d0a074261d0966e2535750d5d3c5d4cd5d1b4c41174fc5d3d428ec5d38d5cdc5d33480c5202e3a174742e0e85b1d0b43a164742c0e8571d0ac8c3496028052c20a58214b00295f852be1ca7a394f032ce95e1c52636a4a64aecb26d950ca280644146c786d891b0020e9c1,
  0x1d0be742f414ba742e1d0b6742d1d0ac742a9d0a874299d0a474289d0a074261d0966f6535750d5d3c5d4cd5d1b4c41174fc5d3d428ec5d38d5cdc5d33480c5202e3a174742e0e85b1d0b43a164742c0e8571d0ac8c3496028052c20a58214b00295f852be1ca7a394f032ce95e1c52636a4a64aecb26d950ca280644146c786d891b0020e9c1,
  0x1d0be742f414ba742e1d0b6742d1d0ac742a9d0a874299d0a474289d0a074261d0966fa535750d5d3c5d4cd5d1b4c41174fc5d3d428ec5d38d5cdc5d33480c5202e3a174742e0e85b1d0b43a164742c0e8571d0ac8c3496028052c20a58214b00295f852be1ca7a394f032ce95e1c52636a4a64aecb26d950ca280644146c786d891b0020e9c1,
  0x1d0be742f414ba742e1d0b6742d1d0ac742a9d0a874299d0a474289d0a074261d0966fe535750d5d3c5d4cd5d1b4c41174fc5d3d428ec5d38d5cdc5d33480c5202e3a174742e0e85b1d0b43a164742c0e8571d0ac8c3496028052c20a58214b00295f852be1ca7a394f032ce95e1c52636a4a64aecb26d950ca280644146c786d891b0020e9c1,
  0x1d0be742f414ba742e1d0b6742d1d0ac742a9d0a874299d0a474289d0a074261d096702535750d5d3c5d4cd5d1b4c41174fc5d3d428ec5d38d5cdc5d33480c5202e3a174742e0e85b1d0b43a164742c0e8571d0ac8c3496028052c20a58214b00295f852be1ca7a394f032ce95e1c52636a4a64aecb26d950ca280644146c786d891b0020e9c1,
  0x12bbe4aef419ba4aee12bb64aed12bac4aea92ba84ae992ba44ae892ba04ae612b96492535750d5d3c624cd5d1b4c41188fc623d438ec6238d5cdc6233484c5212e257744aee095db12bb4257644aec095d712bac8cd496068055c20ab82157002adf855be12a7a254f0338e95e1c52636a4a64aecb26d950cd2806441470786f89123020e9c1,
  0x12bbe4aef419ba4aee12bb64aed12bac4aea92ba84ae992ba44ae892ba04ae612b96496535750d5d3c624cd5d1b4c41188fc623d438ec6238d5cdc6233484c5212e257744aee095db12bb4257644aec095d712bac8cd496068055c20ab82157002adf855be12a7a254f0338e95e1c52636a4a64aecb26d950cd2806441470786f89123020e9c1,
  0x12bbe4aef419ba4aee12bb64aed12bac4aea92ba84ae992ba44ae892ba04ae612b9649a535750d5d3c624cd5d1b4c41188fc623d438ec6238d5cdc6233484c5212e257744aee095db12bb4257644aec095d712bac8cd496068055c20ab82157002adf855be12a7a254f0338e95e1c52636a4a64aecb26d950cd2806441470786f89123020e9c1,
  0x12bbe4aef419ba4aee12bb64aed12bac4aea92ba84ae992ba44ae892ba04ae612b9649e535750d5d3c624cd5d1b4c41188fc623d438ec6238d5cdc6233484c5212e257744aee095db12bb4257644aec095d712bac8cd496068055c20ab82157002adf855be12a7a254f0338e95e1c52636a4a64aecb26d950cd2806441470786f89123020e9c1,
  0x12bbe4aef419ba4aee12bb64aed12bac4aea92ba84ae992ba44ae892ba04ae612b964a2535750d5d3c624cd5d1b4c41188fc623d438ec6238d5cdc6233484c5212e257744aee095db12bb4257644aec095d712bac8cd496068055c20ab82157002adf855be12a7a254f0338e95e1c52636a4a64aecb26d950cd2806441470786f89123020e9c1,
  0x12bbe4aef419ba4aee12bb64aed12bac4aea92ba84ae992ba44ae892ba04ae612b964a6535750d5d3c624cd5d1b4c41188fc623d438ec6238d5cdc6233484c5212e257744aee095db12bb4257644aec095d712bac8cd496068055c20ab82157002adf855be12a7a254f0338e95e1c52636a4a64aecb26d950cd2806441470786f89123020e9c1,
  0x15cbe572f41aba572e15cb6572d15cac572a95ca8572995ca4572895ca0572615c96552535750d5d3c674cd5d1b4c4119cfc673d448ec6738d5cdc6733488c5222e2b974572e0ae5b15cb42b964572c0ae5715cac8d74960a8058c20b182163002c5f858be15a7a2b4f0348e95e1c52636a4a64aecb26d950d32806441474787189152020e9c1,
  0x15cbe572f41aba572e15cb6572d15cac572a95ca8572995ca4572895ca0572615c96556535750d5d3c674cd5d1b4c4119cfc673d448ec6738d5cdc6733488c5222e2b974572e0ae5b15cb42b964572c0ae5715cac8d74960a8058c20b182163002c5f858be15a7a2b4f0348e95e1c52636a4a64aecb26d950d32806441474787189152020e9c1,
  0x15cbe572f41aba572e15cb6572d15cac572a95ca8572995ca4572895ca0572615c9655a535750d5d3c674cd5d1b4c4119cfc673d448ec6738d5cdc6733488c5222e2b974572e0ae5b15cb42b964572c0ae5715cac8d74960a8058c20b182163002c5f858be15a7a2b4f0348e95e1c52636a4a64aecb26d950d32806441474787189152020e9c1,
  0x15cbe572f41aba572e15cb6572d15cac572a95ca8572995ca4572895ca0572615c9655e535750d5d3c674cd5d1b4c4119cfc673d448ec6738d5cdc6733488c5222e2b974572e0ae5b15cb42b964572c0ae5715cac8d74960a8058c20b182163002c5f858be15a7a2b4f0348e95e1c52636a4a64aecb26d950d32806441474787189152020e9c1,
  0x15cbe572f41aba572e15cb6572d15cac572a95ca8572995ca4572895ca0572615c96562535750d5d3c674cd5d1b4c4119cfc673d448ec6738d5cdc6733488c5222e2b974572e0ae5b15cb42b964572c0ae5715cac8d74960a8058c20b182163002c5f858be15a7a2b4f0348e95e1c52636a4a64aecb26d950d32806441474787189152020e9c1,
  0x15cbe572f41aba572e15cb6572d15cac572a95ca8572995ca4572895ca0572615c96566535750d5d3c674cd5d1b4c4119cfc673d448ec6738d5cdc6733488c5222e2b974572e0ae5b15cb42b964572c0ae5715cac8d74960a8058c20b182163002c5f858be15a7a2b4f0348e95e1c52636a4a64aecb26d950d32806441474787189152020e9c1,
  0x224be892f41bba892e224b6892d224ac892aa24a88929a24a48928a24a08926224967de535750d5d3c6c4cd5d1b4c411b0fc6c3d458ec6c38d5cdc6c3348cc5232e44974892e1125b224b444964892c11257224ac8e14960e805bc20b78216f002ddf85bbe2097a412f0350e95e1c52636a4a64aecb26d950d628064414787873891cb020e9c1,
  0x224be892f41bba892e224b6892d224ac892aa24a88929a24a48928a24a08926224967e6535750d5d3c6c4cd5d1b4c411b0fc6c3d458ec6c38d5cdc6c3348cc5232e44974892e1125b224b444964892c11257224ac8e14960e805bc20b78216f002ddf85bbe2097a412f0350e95e1c52636a4a64aecb26d950d628064414787873891cb020e9c1,
  0x224be892f41bba892e224b6892d224ac892aa24a88929a24a48928a24a08926224967f2535750d5d3c6c4cd5d1b4c411b0fc6c3d458ec6c38d5cdc6c3348cc5232e44974892e1125b224b444964892c11257224ac8e14960e805bc20b78216f002ddf85bbe2097a412f0350e95e1c52636a4a64aecb26d950d628064414787873891cb020e9c1,
  0x224be892f41bba892e224b6892d224ac892aa24a88929a24a48928a24a08926224967f6535750d5d3c6c4cd5d1b4c411b0fc6c3d458ec6c38d5cdc6c3348cc5232e44974892e1125b224b444964892c11257224ac8e14960e805bc20b78216f002ddf85bbe2097a412f0350e95e1c52636a4a64aecb26d950d628064414787873891cb020e9c1,
  0x224be892f41bba892e224b6892d224ac892aa24a88929a24a48928a24a08926224967fa535750d5d3c6c4cd5d1b4c411b0fc6c3d458ec6c38d5cdc6c3348cc5232e44974892e1125b224b444964892c11257224ac8e14960e805bc20b78216f002ddf85bbe2097a412f0350e95e1c52636a4a64aecb26d950d628064414787873891cb020e9c1,
  0x224be892f41bba892e224b6892d224ac892aa24a88929a24a48928a24a08926224967fe535750d5d3c6c4cd5d1b4c411b0fc6c3d458ec6c38d5cdc6c3348cc5232e44974892e1125b224b444964892c11257224ac8e14960e805bc20b78216f002ddf85bbe2097a412f0350e95e1c52636a4a64aecb26d950d628064414787873891cb020e9c1,
  0x18cbe632f374ba632e18cb6632d18cac632a98ca8632998ca4632898ca0632618c96616535750d5d3b804cd5d1b4c40e00fb803d410eb8038d5cdb8032e6cc39b2e31974632e0c65b18cb431964632c0c65718cac8b9495fe804bc20978212f0025df84bbe18a7a314f02f8e95e1c52636a4a64aecb26d950bd280644137c786b89187020e9c1,
  0x18cbe632f374ba632e18cb6632d18cac632a98ca8632998ca4632898ca0632618c96616535750d5d3b804cd5d1b4c40e00fb803d410eb8038d5cdb803347cc51f2e31974632e0c65b18cb431964632c0c65718cac8b9495fe804bc20978212f0025df84bbe18a7a314f02f8e9611c52636a4a64aecb26d950cf280644137c786b89208020e9c1,
  0x1d0be742f414ba742e1d0b6742d1d0ac742a9d0a874299d0a474289d0a074261d0966da535750d5d3c5d4cd5d1b4c41174fc5d3d428ec5d38d5cdc5d33480c5202e3a174742e0e85b1d0b43a164742c0e8571d0ac8c3496028052c20a58214b00295f852be1ca7a394f032ce95e1c52636a4a64aecb26d950ca280644146c786d891b0020e9c1,
  0x18cbe632f374ba632e18cb6632d18cac632a98ca8632998ca4632898ca0632618c96a56535750d5d3b804cd5d1b4c40e00fb803d410eb8038d5cdb803347cc51f2e31974632e0c65b18cb431964632c0c65718cac8b9495fe8060c20c18218300305f860be18a7a314f0340e95e1c52636a4a64aecb26d950d1280644137c786b89225020e9c1,
  0x18cbe632f374ba632e18cb6632d18cac632a98ca8632998ca4632898ca0632618c96616535750d5d3b804cd5d1b4c40e00fb803d410eb8038d5cdb803347cc51f2e31974632e0c65b18cb431964632c0c65718cac8b9495fe8060c20c18218300305f860be18a7a314f0340e95e1c52636a4a64aecb26d950d1280644137c786b89225020e9c1,
  0x18cbe632f374ba632e18cb6632d18cac632a98ca8632998ca4632898ca0632618c9661a535750d5d3b804cd5d1b4c40e00fb803d410eb8038d5cdb803347cc51f2e31974632e0c65b18cb431964632c0c65718cac8b9495fe8060c20c18218300305f860be18a7a314f0340e95e1c52636a4a64aecb26d950d1280644137c786b89225020e9c1,
  0x18cbe632f374ba632e18cb6632d18cac632a98ca8632998ca4632898ca0632618c9693e535750d5d3b804cd5d1b4c40e00fb803d410eb8038d5cdb803347cc51f2e31974632e0c65b18cb431964632c0c65718cac8b9495fe8060c20c18218300305f860be18a7a314f0340e95e1c52636a4a64aecb26d950d1280644137c786b89225020e9c1,
  0x18cbe632f374ba632e18cb6632d18cac632a98ca8632998ca4632898ca0632618c96942535750d5d3b804cd5d1b4c40e00fb803d410eb8038d5cdb803347cc51f2e31974632e0c65b18cb431964632c0c65718cac8b9495fe8060c20c18218300305f860be18a7a314f0340e95e1c52636a4a64aecb26d950d1280644137c786b89225020e9c1,
  0x18cbe632f374ba632e18cb6632d18cac632a98ca8632998ca4632898ca0632618c96946535750d5d3b804cd5d1b4c40e00fb803d410eb8038d5cdb803347cc51f2e31974632e0c65b18cb431964632c0c65718cac8b9495fe8060c20c18218300305f860be18a7a314f0340e95e1c52636a4a64aecb26d950d1280644137c786b89225020e9c1,
  0x18cbe632f374ba632e18cb6632d18cac632a98ca8632998ca4632898ca0632618c9694a535750d5d3b804cd5d1b4c40e00fb803d410eb8038d5cdb803347cc51f2e31974632e0c65b18cb431964632c0c65718cac8b9495fe8060c20c18218300305f860be18a7a314f0340e95e1c52636a4a64aecb26d950d1280644137c786b89225020e9c1,
  0x18cbe632f374ba632e18cb6632d18cac632a98ca8632998ca4632898ca0632618c96616535750d5d3b804cd5d1b4c40e00fb803d410eb8038d5cdb8032e6cc39b2e31974632e0c65b18cb431964632c0c65718cac8b9495fe804fc209f8213f0027df84fbe18a7a314f0320e95e1c52636a4a64aecb26d950c7280644137c786b89187020e9c1,
  0x18cbe632f374ba632e18cb6632d18cac632a98ca8632998ca4632898ca0632618c96616535750d5d3b804cd5d1b4c40e00fb803d410eb8038d5cdb803347cc51f2e31974632e0c65b18cb431964632c0c65718cac8b9495fe804fc209f8213f0027df84fbe18a7a314f0320e9611c52636a4a64aecb26d950c7280644137c786b89187020e9c1,
  0x18cbe632f374ba632e18cb6632d18cac632a98ca8632998ca4632898ca0632618c9698e535750d5d3b804cd5d1b4c40e00fb803d410eb8038d5cdb803347cc51f2e31974632e0c65b18cb431964632c0c65718cac8b9495fe804bc20978212f0025df84bbe18a7a314f02f8e95e1c52636a4a64aecb26d950cf280644137c786b89208020e9c1,
  0x1d0be742f414ba742e1d0b6742d1d0ac742a9d0a874299d0a474289d0a074261d0966de535750d5d3c5d4cd5d1b4c41174fc5d3d428ec5d38d5cdc5d32e6cc39b2e3a174742e0e85b1d0b43a164742c0e8571d0ac8c3496028052c20a58214b00295f852be1ca7a394f032ce95e1c52636a4a64aecb26d950ca280644146c786d891b0020e9c1,
  0x1d0be742f414ba742e1d0b6742d1d0ac742a9d0a874299d0a474289d0a074261d0966de535750d5d3c5d4cd5d1b4c41174fc5d3d428ec5d38d5cdc5d33480c5202e3a174742e0e85b1d0b43a164742c0e8571d0ac8c3496028052c20a58214b00295f852be1ca7a394f032ce9611c52636a4a64aecb26d950ca280644146c786d891b0020e9c1,
  0x18cbe632f374ba632e18cb6632d18cac632a98ca8632998ca4632898ca0632618c969ae535750d5d3b804cd5d1b4c40e00fb803d410eb8038d5cdb803347cc51f2e31974632e0c65b18cb431964632c0c65718cac8b9495fe8060c20c18218300305f860be18a7a314f0340e95e1c52636a4a64aecb26d950d1280644137c786b89225020e9c1,
  0x12bbe4aef419ba4aee12bb64aed12bac4aea92ba84ae992ba44ae892ba04ae612b96492535750d5d3c624cd5d1b4c41188fc623d438ec6238d5cdc6232e6cc39b2e257744aee095db12bb4257644aec095d712bac8cd496068055c20ab82157002adf855be12a7a254f0338e95e1c52636a4a64aecb26d950cd2806441470786f89123020e9c1,
  0x12bbe4aef419ba4aee12bb64aed12bac4aea92ba84ae992ba44ae892ba04ae612b96492535750d5d3c624cd5d1b4c41188fc623d438ec6238d5cdc6233484c5212e257744aee095db12bb4257644aec095d712bac8cd496068055c20ab82157002adf855be12a7a254f0338e9611c52636a4a64aecb26d950cd2806441470786f89123020e9c1,
  0x18cbe632f374ba632e18cb6632d18cac632a98ca8632998ca4632898ca0632618c96616535750d5d3b804cd5d1b4c40e00fb803d410eb8038d5cdb8032e6cc39b2e31974632e0c65b18cb431964632c0c65718cac8b9495fe804bc20978212f0025df84bbe18a7a314f02f8e95e1c52636a4a64aecb26d950cf280644137c786b89208020e9c1,
  0x18cbe632f374ba632e18cb6632d18cac632a98ca8632998ca4632898ca0632618c96616535750d5d3b804cd5d1b4c40e00fb803d410eb8038d5cdb803347cc51f2e31974632e0c65b18cb431964632c0c65718cac8b9495fe8060c20c18218300305f860be18a7a314f0340e9611c52636a4a64aecb26d950d1280644137c786b89225020e9c1,
  0x18cbe632f374ba632e18cb6632d18cac632a98ca8632998ca4632898ca0632618c96616535750d5d3b804cd5d1b4c40e00fb803d410eb8038d5cdb8032e6cc39b2e31974632e0c65b18cb431964632c0c65718cac8b9495fe8060c20c18218300305f860be18a7a314f0340e95e1c52636a4a64aecb26d950d1280644137c786b89225020e9c1,
  0x15cbe572f41aba572e15cb6572d15cac572a95ca8572995ca4572895ca0572615c96552535750d5d3c674cd5d1b4c4119cfc673d448ec6738d5cdc6733488c5222e2b974572e0ae5b15cb42b964572c0ae5715cac8d74960a8058c20b182163002c5f858be15a7a2b4f0348e9611c52636a4a64aecb26d950d32806441474787189152020e9c1,
  0x15cbe572f41aba572e15cb6572d15cac572a95ca8572995ca4572895ca0572615c96552535750d5d3c674cd5d1b4c4119cfc673d448ec6738d5cdc6732e6cc39b2e2b974572e0ae5b15cb42b964572c0ae5715cac8d74960a8058c20b182163002c5f858be15a7a2b4f0348e95e1c52636a4a64aecb26d950d32806441474787189152020e9c1,
  0x224be892f41bba892e224b6892d224ac892aa24a88929a24a48928a24a08926224967de535750d5d3c6c4cd5d1b4c411b0fc6c3d458ec6c38d5cdc6c3348cc5232e44974892e1125b224b444964892c11257224ac8e14960e805bc20b78216f002ddf85bbe2097a412f0350e9611c52636a4a64aecb26d950d628064414787873891cb020e9c1,
  0x18cbe632f374ba632e18cb6632d18cac632a98ca8632998ca4632898ca0632618c96616535750d5d3b804cd5d1b4c40e00fb803d410eb8038d5cdb8032e6cc39b2e31974632e0c65b18cb431964632c0c65718cac8b9495fe804fc209f8213f0027df84fbe18a7a314f0320e95e1c52636a4a64aecb26d950d5280644137c786b8920a020e9c1,
  0x224be892f41bba892e224b6892d224ac892aa24a88929a24a48928a24a08926224967de535750d5d3c6c4cd5d1b4c411b0fc6c3d458ec6c38d5cdc6c32e6cc39b2e44974892e1125b224b444964892c11257224ac8e14960e805bc20b78216f002ddf85bbe2097a412f0350e95e1c52636a4a64aecb26d950d628064414787873891cb020e9c1,
  0x18cbe632f374ba632e18cb6632d18cac632a98ca8632998ca4632898ca0632618c96a5a535750d5d3b804cd5d1b4c40e00fb803d410eb8038d5cdb80331d4c4752e31974632e0c65b18cb431964632c0c65718cac8b9495fe804bc20978212f0025df84bbe18a7a314f02f8e95e1c52636a4a64aecb26d950bd280644137c786b89187020e9c1,
  0x18cbe632f374ba632e18cb6632d18cac632a98ca8632998ca4632898ca0632618c96996535750d5d3b804cd5d1b4c40e00fb803d410eb8038d5cdb803347cc51f2e31974632e0c65b18cb431964632c0c65718cac8b9495fe804bc20978212f0025df84bbe18a7a314f02f8e95e1c52636a4a64aecb26d950cf280644137c786b89208020e9c1,
  0x18cbe632f374ba632e18cb6632d18cac632a98ca8632998ca4632898ca0632618c96a6e535750d5d3b804cd5d1b4c40e00fb803d410eb8038d5cdb803347cc51f2e31974632e0c65b18cb431964632c0c65718cac8b9495fe804fc209f8213f0027df84fbe18a7a314f0320e95e1c52636a4a64aecb26d950c7280644137c786b89187020e9c1,
  0x18cbe632f374ba632e18cb6632d18cac632a98ca8632998ca4632898ca0632618c96a72535750d5d3b804cd5d1b4c40e00fb803d410eb8038d5cdb803347cc51f2e31974632e0c65b18cb431964632c0c65718cac8b9495fe804fc209f8213f0027df84fbe18a7a314f0320e95e1c52636a4a64aecb26d950c7280644137c786b89187020e9c1,
  0x18cbe632f374ba632e18cb6632d18cac632a98ca8632998ca4632898ca0632618c96a76535750d5d3b804cd5d1b4c40e00fb803d410eb8038d5cdb80331d4c4752e31974632e0c65b18cb431964632c0c65718cac8b9495fe804bc20978212f0025df84bbe18a7a314f02f8e95e1c52636a4a64aecb26d950bd280644137c786b89187020e9c1,
  0x18cbe632f374ba632e18cb6632d18cac632a98ca8632998ca4632898ca0632618c969b6535750d5d3b804cd5d1b4c40e00fb803d410eb8038d5cdb803347cc51f2e31974632e0c65b18cb431964632c0c65718cac8b9495fe804bc20978212f0025df84bbe18a7a314f02f8e95e1c52636a4a64aecb26d950cf280644137c786b89208020e9c1,
  0x18cbe632f374ba632e18cb6632d18cac632a98ca8632998ca4632898ca0632618c96a8a535750d5d3b804cd5d1b4c40e00fb803d410eb8038d5cdb803347cc51f2e31974632e0c65b18cb431964632c0c65718cac8b9495fe804fc209f8213f0027df84fbe18a7a314f0320e95e1c52636a4a64aecb26d950c7280644137c786b89187020e9c1,
  0x18cbe632f374ba632e18cb6632d18cac632a98ca8632998ca4632898ca0632618c96a8e535750d5d3b804cd5d1b4c40e00fb803d410eb8038d5cdb803347cc51f2e31974632e0c65b18cb431964632c0c65718cac8b9495fe804fc209f8213f0027df84fbe18a7a314f0320e95e1c52636a4a64aecb26d950c7280644137c786b89187020e9c1,
  0x18cbe632f374ba632e18cb6632d18cac632a98ca8632998ca4632898ca0632618c96a92535750d5d3b804cd5d1b4c40e00fb803d410eb8038d5cdb80331d4c4752e31974632e0c65b18cb431964632c0c65718cac8b9495fe804bc20978212f0025df84bbe18a7a314f02f8e95e1c52636a4a64aecb26d950bd280644137c786b89187020e9c1,
  0x18cbe632f374ba632e18cb6632d18cac632a98ca8632998ca4632898ca0632618c969d2535750d5d3b804cd5d1b4c40e00fb803d410eb8038d5cdb803347cc51f2e31974632e0c65b18cb431964632c0c65718cac8b9495fe804bc20978212f0025df84bbe18a7a314f02f8e95e1c52636a4a64aecb26d950cf280644137c786b89208020e9c1,
  0x18cbe632f374ba632e18cb6632d18cac632a98ca8632998ca4632898ca0632618c96aa6535750d5d3b804cd5d1b4c40e00fb803d410eb8038d5cdb803347cc51f2e31974632e0c65b18cb431964632c0c65718cac8b9495fe804fc209f8213f0027df84fbe18a7a314f0320e95e1c52636a4a64aecb26d950c7280644137c786b89187020e9c1,
  0x18cbe632f374ba632e18cb6632d18cac632a98ca8632998ca4632898ca0632618c96aaa535750d5d3b804cd5d1b4c40e00fb803d410eb8038d5cdb803347cc51f2e31974632e0c65b18cb431964632c0c65718cac8b9495fe804fc209f8213f0027df84fbe18a7a314f0320e95e1c52636a4a64aecb26d950c7280644137c786b89187020e9c1,
  0x18cbe632f374ba632e18cb6632d18cac632a98ca8632998ca4632898ca0632618c96aae535750d5d3b804cd5d1b4c40e00fb803d410eb8038d5cdb80331d4c4752e31974632e0c65b18cb431964632c0c65718cac8b9495fe804bc20978212f0025df84bbe18a7a314f02f8e95e1c52636a4a64aecb26d950bd280644137c786b89187020e9c1,
  0x18cbe632f374ba632e18cb6632d18cac632a98ca8632998ca4632898ca0632618c969e6535750d5d3b804cd5d1b4c40e00fb803d410eb8038d5cdb803347cc51f2e31974632e0c65b18cb431964632c0c65718cac8b9495fe804bc20978212f0025df84bbe18a7a314f02f8e95e1c52636a4a64aecb26d950cf280644137c786b89208020e9c1,
  0x18cbe632f374ba632e18cb6632d18cac632a98ca8632998ca4632898ca0632618c96ac2535750d5d3b804cd5d1b4c40e00fb803d410eb8038d5cdb803347cc51f2e31974632e0c65b18cb431964632c0c65718cac8b9495fe804fc209f8213f0027df84fbe18a7a314f0320e95e1c52636a4a64aecb26d950c7280644137c786b89187020e9c1,
  0x18cbe632f374ba632e18cb6632d18cac632a98ca8632998ca4632898ca0632618c96ac6535750d5d3b804cd5d1b4c40e00fb803d410eb8038d5cdb803347cc51f2e31974632e0c65b18cb431964632c0c65718cac8b9495fe804fc209f8213f0027df84fbe18a7a314f0320e95e1c52636a4a64aecb26d950c7280644137c786b89187020e9c1,
  0x18cbe632f374ba632e18cb6632d18cac632a98ca8632998ca4632898ca0632618c96aca535750d5d3b804cd5d1b4c40e00fb803d410eb8038d5cdb80331d4c4752e31974632e0c65b18cb431964632c0c65718cac8b9495fe804bc20978212f0025df84bbe18a7a314f02f8e95e1c52636a4a64aecb26d950bd280644137c786b89187020e9c1,
  0x18cbe632f374ba632e18cb6632d18cac632a98ca8632998ca4632898ca0632618c969fa535750d5d3b804cd5d1b4c40e00fb803d410eb8038d5cdb803347cc51f2e31974632e0c65b18cb431964632c0c65718cac8b9495fe804bc20978212f0025df84bbe18a7a314f02f8e95e1c52636a4a64aecb26d950cf280644137c786b89208020e9c1,
  0x18cbe632f374ba632e18cb6632d18cac632a98ca8632998ca4632898ca0632618c96ade535750d5d3b804cd5d1b4c40e00fb803d410eb8038d5cdb803347cc51f2e31974632e0c65b18cb431964632c0c65718cac8b9495fe804fc209f8213f0027df84fbe18a7a314f0320e95e1c52636a4a64aecb26d950c7280644137c786b89187020e9c1,
  0x18cbe632f374ba632e18cb6632d18cac632a98ca8632998ca4632898ca0632618c96ae2535750d5d3b804cd5d1b4c40e00fb803d410eb8038d5cdb803347cc51f2e31974632e0c65b18cb431964632c0c65718cac8b9495fe804fc209f8213f0027df84fbe18a7a314f0320e95e1c52636a4a64aecb26d950c7280644137c786b89187020e9c1,
  0x501d8000000000000000000102000000a00001fffd800000000824010086f2373ba63ebb5750d5d3b574d3cd2b5746dcd03573ed5cf35738d5cdb5b34d5ccc4f3113cbaa99d2eb38b086d494c80f172bb2c9b654bb8a01c905051ea6c30af84a990735302888e3,
  0x501d8000000000000000000102000000a00001fffd8c001fffca206138406bb5b34026b0074b943105320e81044,
  0x501d8000000000000000000102000000a00001fffd8c001fffca206138406bb5b34018b0074b943105320e81044,
  0x1c0000000000000ffe4000200000006c000000000c00000002000038c6f49009f38cd0484f08f9c11d3423a60474b08e9411d2423a4045c708b8c1171422e2045c308b8411904231f8463e3a4407467c234e8461a08b28068402286019894e20e819a4,
  0xa03b0000000000000000000204000001400003fffb18003fff9440c27080d76b668074b943105320e81034,
  0x1880003fffb18003fff9440c070804f9c6680d08019894e20e41034,
  0xca7f8a000ff2bfc00075f394d640001,
  0x18a0003fffb18003fff9440c070804f9c6680d08019894e20e41034,
  0x3140007f81630007fff280180e1009f38cd045c708b8c1171422e2045c308b84116500d08019894e20e410a4,
  0x3140007f80030007fff080180e1009f38cd045c708b8c1171422e2045c308b8411904231f8463e08c34116500d08019894e20e410e4,
  0xc5000180000c001fffc20060384027ce33411d3423a60474b08e9411d2423a4045c708b8c1171422e2045c308b8411904231f8463e08c34116500d08019894e20e41144,
  0x628000800006000fffe100301c2013e719a08f9c11d3423a60474b08e9411d2423a4045c708b8c1171422e2045c308b8411904231f8463e08c34116500d08019894e20e41154,
  0x1400003fffb18003fff9444c270804e2851240814,
  0x630001fffd8c401fffca22653840004,
  0xc80001fffd8c001fffca226d3840004,
  0x640001fffd8c401fffca22653840004,
  0xc70001fffd8c001fffca226d3840004,
  0xc90001fffd8c001fffca226d3840004,
  0xa00001fffd8c001fffca22653840004,
  0x380000000000001ffc800040000000d80000000000000000000000218de925b3dc6a9a22682c27857ce0ae9a15d302ba58574a0ae9215d202b23856460ac8a159102b21856420ad8215afc2b5f280204ff3e136742b4d005970ac2809c402286021895100e821b5,
  0x380000000000001ffc800040000000d80000000000000000000000218de925b3dd5a9a22682c27857ce0ae9a15d302ba58574a0ae9215d202b23856460ac8a159102b21856420ad8215afc2b5f280204ff3e136742b4d005970ac2809c402286021895100e821b5,
  0xa20001fffd8c001fffca22653840004,
  0xbb0001fffd8c001fffca22653840004,
  0xba0001fffd8c001fffca22653840004,
  0xa10001fffd8c001fffca22653840004,
  0xc20001fffd8c001fffca22653840004,
  0xa50001fffd8c001fffca22653840004,
  0xbc0001fffd8c001fffca22653840004,
  0xad0001fffd8c001fffca22653840004,
  0xa90001fffd8c001fffca22653840004,
  0xa30001fffd8c001fffca22653840004,
  0xc30001fffd8c001fffca22653840004,
  0xa60001fffd8c001fffca22653840004,
  0xbd0001fffd8c001fffca22653840004,
  0xb50001fffd8c001fffca22653840004,
  0xb70001fffd8c001fffca22653840004,
  0xaa0001fffd8c001fffca22653840004,
  0xaf0001fffd8c001fffca22653840004,
  0xae0001fffd8c001fffca22653840004,
  0xa70001fffd8c001fffca22653840004,
  0xbe0001fffd8c001fffca22653840004,
  0xb60001fffd8c001fffca22653840004,
  0xb80001fffd8c001fffca22653840004,
  0xb40001fffd8c001fffca22653840004,
  0xab0001fffd8c001fffca22653840004,
  0xb00001fffd8c001fffca22653840004,
  0xb00001fffd8c001fffca22653840004,
  0xa80001fffd8c001fffca22653840004,
  0xbf0001fffd8c001fffca22653840004,
  0xb90001fffd8c001fffca22653840004,
  0xac0001fffd8c001fffca22653840004,
  0xb10001fffd8c001fffca22653840004,
  0xb20001fffd8c001fffca22653840004,
  0xb30001fffd8c001fffca22653840004,
  0xe00000000000007ff20001000000036000000000000000000000008637a496cfa22682c27857ce0ae9a15d302ba58574a0ae9215d202b23856460ac8a159102b21856420ad8215afc2b5f280204ff3e136742b4d1d7970ac2809c402286021894e80e819b5,
  0x360000000000000000008000000000380000000000001ffc80004000c6f492d9f444d0584f0af9c15d342ba60574b0ae9415d242ba4056470ac8c159142b22056430ac8415b042b5f856be500409fe7c300e8569a0ac2809c402286021895100e819a5,
  0x140760000000000000000000408000002800007fff600007fff248184412eaed6cd143105320e81025,
  0x1880003fffb00003fff9240c02096cfa22681388021895100e41035,
  0x18a0003fffb00003fff9240c02096cfa22681388021895100e41035,
  0x3140007f81600007fff240180412d9f444d056470ac8c159142b22056430ac84158501388021895100e410a5,
  0x3140007f80000007fff040180412d9f444d056470ac8c159142b22056430ac8415b042b5f856be0ad34158501388021895100e410e5,
  0xc50001800000001fffc10060104b67d113415d342ba60574b0ae9415d242ba4056470ac8c159142b22056430ac8415b042b5f856be0ad34158501388021895100e41145,
  0x628000800000000fffe080300825b3e889a0af9c15d342ba60574b0ae9415d242ba4056470ac8c159142b22056430ac8415b042b5f856be0ad34158501388021895100e41155,
  0x1400003fffb00003fff9244c22096ce2a61240815,
  0xa00001fffd80001fffc922651040005,
  0x630001fffd80001fffc922651040005,
  0xa20001fffd80001fffc922651040005,
  0xbb0001fffd80001fffc922651040005,
  0xba0001fffd80001fffc922651040005,
  0xa10001fffd80001fffc922651040005,
  0xc20001fffd80001fffc922651040005,
  0x640001fffd80001fffc922651040005,
  0xa50001fffd80001fffc922651040005,
  0xbc0001fffd80001fffc922651040005,
  0xad0001fffd80001fffc922651040005,
  0xa90001fffd80001fffc922651040005,
  0xa30001fffd80001fffc922651040005,
  0xc30001fffd80001fffc922651040005,
  0xa60001fffd80001fffc922651040005,
  0xbd0001fffd80001fffc922651040005,
  0xb50001fffd80001fffc922651040005,
  0xb70001fffd80001fffc922651040005,
  0xaa0001fffd80001fffc922651040005,
  0xaf0001fffd80001fffc922651040005,
  0xae0001fffd80001fffc922651040005,
  0xa70001fffd80001fffc922651040005,
  0xbe0001fffd80001fffc922651040005,
  0xb60001fffd80001fffc922651040005,
  0xb80001fffd80001fffc922651040005,
  0xb40001fffd80001fffc922651040005,
  0xab0001fffd80001fffc922651040005,
  0xb00001fffd80001fffc922651040005,
  0xb00001fffd80001fffc922651040005,
  0xa80001fffd80001fffc922651040005,
  0xbf0001fffd80001fffc922651040005,
  0xb90001fffd80001fffc922651040005,
  0xac0001fffd80001fffc922651040005,
  0xb10001fffd80001fffc922651040005,
  0xb20001fffd80001fffc922651040005,
  0xb30001fffd80001fffc922651040005,
  0xc80001fffd80001fffc922651040005,
  0xc70001fffd80001fffc922651040005,
  0xc90001fffd80001fffc922651040005,
  0xa03b0000000000000000000204000001400003fffb00003ff91040c200afd76b668084b943105320e81036,
  0x34c0000000000007ff2000180015e9f454d05b4f0b59c169342d2605a4b0b494169242d24059470b28c165142ca2059430b284167042cdf859be0b3341645013c8023095140e41166,
  0x1880003fffb00003ff91040c000af4fa2a6813c8023095140e41036,
  0x18a0003fffb00003ff91040c000af4fa2a6813c8023095140e41036,
  0x3140007f81600007ff2200180015e9f454d059470b28c165142ca2059430b2841645013c8023095140e410a6,
  0x3140007f80000007ff2000180015e9f454d059470b28c165142ca2059430b284167042cdf859be0b3341645013c8023095140e410e6,
  0xc50001800000001ffc8000600057a7d1534169342d2605a4b0b494169242d24059470b28c165142ca2059430b284167042cdf859be0b3341645013c8023095140e41146,
  0x628000800000000ffe400030002bd3e8a9a0b59c169342d2605a4b0b494169242d24059470b28c165142ca2059430b284167042cdf859be0b3341645013c8023095140e41156,
  0x1400003fffb00003ff91044c200af4e2ad1240816,
  0x2680000000000000000100001c4b7b21bdf86f7992dd654a1952765499952364a81951f65479951c6546d971a65465bc186f05d07a9294d055c3a5e271614dabe192ea2ca0654bd0a01e9050b1ea7c30bb44aaa8731e02488f4,
  0xa00001fffd80001ffc8822650040006,
  0x630001fffd80001ffc8822650040006,
  0xa20001fffd80001ffc8822650040006,
  0xbb0001fffd80001ffc8822650040006,
  0xba0001fffd80001ffc8822650040006,
  0xa10001fffd80001ffc8822650040006,
  0xc20001fffd80001ffc8822650040006,
  0x640001fffd80001ffc8822650040006,
  0xa50001fffd80001ffc8822650040006,
  0xbc0001fffd80001ffc8822650040006,
  0xad0001fffd80001ffc8822650040006,
  0xa90001fffd80001ffc8822650040006,
  0xa30001fffd80001ffc8822650040006,
  0xc30001fffd80001ffc8822650040006,
  0xa60001fffd80001ffc8822650040006,
  0xbd0001fffd80001ffc8822650040006,
  0xb50001fffd80001ffc8822650040006,
  0xb70001fffd80001ffc8822650040006,
  0xaa0001fffd80001ffc8822650040006,
  0xaf0001fffd80001ffc8822650040006,
  0xae0001fffd80001ffc8822650040006,
  0xa70001fffd80001ffc8822650040006,
  0xbe0001fffd80001ffc8822650040006,
  0xb60001fffd80001ffc8822650040006,
  0xb80001fffd80001ffc8822650040006,
  0xb40001fffd80001ffc8822650040006,
  0xab0001fffd80001ffc8822650040006,
  0xb00001fffd80001ffc8822650040006,
  0xb00001fffd80001ffc8822650040006,
  0xa80001fffd80001ffc8822650040006,
  0xbf0001fffd80001ffc8822650040006,
  0xb90001fffd80001ffc8822650040006,
  0xac0001fffd80001ffc8822650040006,
  0xb10001fffd80001ffc8822650040006,
  0xb20001fffd80001ffc8822650040006,
  0xb30001fffd80001ffc8822650040006,
  0xc80001fffd80001ffc8822650040006,
  0xc70001fffd80001ffc8822650040006,
  0xc90001fffd80001ffc8822650040006,
  0x3080050000060000000580201c64b7595286549d95266548d92a06547d951e65471951b654659d1867441570e9789c58536af864ba8b281952f4280dc4142c79008931e02468b2,
  0x3080050000060000000580201c64d7595286549d95266548d93206547d951e65471951b654659d1867441594e97a9c58636af864ba8b281952f7280e64143c79008931f02468b2,
  0x1880003fffb000040011658d020c74fa0e68130801e095060e41037,
  0x18a0003fffb000040011658d020c74fa0e68130801e095060e41037,
  0xa03b000000000000000000020c000001400003fffb000040011448c220c7d76b668078b943105320e81037,
  0x880000000060000000100001c3138db9dd6aea1aba76ae99aba36e681ab9f6ae79ab9c6ae6dab99a6a629a975533a5d671610da92992bb2c9b654bb8a033905051e0aa354d0615f0935302470d2,
  0x900000000060000000100001c6238db9dd6aea1aba76ae99aba36e681ab9f6ae79ab9c6ae6dab99a78629e175533a5d671610da92992bb2c9b654bb8a033905051e0b8354d0615f0935302470d2,
  0x1400003fffb00004001165cd220c74e2981240817,
  0x1c00000000060000000100001c6f9a4e8cfa1a682aa7854ce0a89a151302a258544a0a8921512029a3853460a68a14d1029a1853420a78214efc29df0539a0a62809a402fc60200950c0e41978,
  0xa00001fffd800020008b2e6d1040007,
  0x630001fffd800020008b2e6d1040007,
  0xa20001fffd800020008b2e6d1040007,
  0xbb0001fffd800020008b2e6d1040007,
  0xba0001fffd800020008b2e6d1040007,
  0xa10001fffd800020008b2e6d1040007,
  0xc20001fffd800020008b2e6d1040007,
  0x640001fffd800020008b2e6d1040007,
  0xa50001fffd800020008b2e6d1040007,
  0xbc0001fffd800020008b2e6d1040007,
  0xad0001fffd800020008b2e6d1040007,
  0xa90001fffd800020008b2e6d1040007,
  0xa30001fffd800020008b2e6d1040007,
  0xc30001fffd800020008b2e6d1040007,
  0xa60001fffd800020008b2e6d1040007,
  0xbd0001fffd800020008b2e6d1040007,
  0xb50001fffd800020008b2e6d1040007,
  0xb70001fffd800020008b2e6d1040007,
  0xaa0001fffd800020008b2e6d1040007,
  0xaf0001fffd800020008b2e6d1040007,
  0xae0001fffd800020008b2e6d1040007,
  0xa70001fffd800020008b2e6d1040007,
  0xbe0001fffd800020008b2e6d1040007,
  0xb60001fffd800020008b2e6d1040007,
  0xb80001fffd800020008b2e6d1040007,
  0xb40001fffd800020008b2e6d1040007,
  0xab0001fffd800020008b2e6d1040007,
  0xb00001fffd800020008b2e6d1040007,
  0xb00001fffd800020008b2e6d1040007,
  0xa80001fffd800020008b2e6d1040007,
  0xbf0001fffd800020008b2e6d1040007,
  0xb90001fffd800020008b2e6d1040007,
  0xac0001fffd800020008b2e6d1040007,
  0xb10001fffd800020008b2e6d1040007,
  0xb20001fffd800020008b2e6d1040007,
  0xb30001fffd800020008b2e6d1040007,
  0xa03b0000000000000000000204000001400003fffb1800000014404270e9576b66807cb943105320e81038,
  0xc80001fffd800020008b2e6d1040007,
  0xc70001fffd800020008b2e6d1040007,
  0xc90001fffd800020008b2e6d1040007,
  0x3080000000000010000482340069975aba86ae9daba66ae8da6206ae7dab9e6ae71ab9b6ae65b3986ce414b0e95e1c52636a4a64aecb26d952bf280a24138078e60934602468b0,
  0x308000000000001000048234006e775aba86ae9daba66ae8db9a06ae7dab9e6ae71ab9b6ae65b3986ce4154ce9759c58436a4a64aecb26d952ee280ce4141478e60935302468b0,
  0x34c0000000030000000080080e1d19f434d0554f0a99c151342a260544b0a894151242a24053470a68c14d1429a2053430a68414f0429df853be0a73414c5013480200950c0e41168,
  0x1880003fffb1800000014404070e8cfa1a6813480200950c0e41038,
  0x18a0003fffb1800000014404070e8cfa1a6813480200950c0e41038,
  0x3140007f81600008002281180418e9f41cd050470a08c141142822050430a08414050130801e095060e410a7,
  0x3140007f80000008002081180418e9f41cd050470a08c141142822050430a08414304285f850be0a13414050130801e095060e410e7,
  0xc500018000000020008204601063a7d07341453428a60514b0a2941452428a4050470a08c141142822050430a08414304285f850be0a13414050130801e095060e41147,
  0x6280008000000010004102300831d3e839a0a39c1453428a60514b0a2941452428a4050470a08c141142822050430a08414304285f850be0a13414050130801e095060e41157,
  0x3140007f81630000000280080e1d19f434d053470a68c14d1429a2053430a68414c5013480200950c0e410a8,
  0x3140007f80030000000080080e1d19f434d053470a68c14d1429a2053430a68414f0429df853be0a73414c5013480200950c0e410e8,
  0xc5000180000c000000020020387467d0d34151342a260544b0a894151242a24053470a68c14d1429a2053430a68414f0429df853be0a73414c5013480200950c0e41148,
  0x6280008000060000000100101c3a33e869a0a99c151342a260544b0a894151242a24053470a68c14d1429a2053430a68414f0429df853be0a73414c5013480200950c0e41158,
  0x1f80000000030000000080000e1d19f434d0554f0a99c151342a260544b0a894151242a24053470a68c14d1429a2053430a68414f0429df853be0a73414c5013480200950c0e41168,
  0x1fc0000000030000000080000e1d19f434d0554f0a99c151342a260544b0a894151242a24053470a68c14d1429a2053430a68414f0429df853be0a73414c5013480200950c0e41168,
  0x61000000000000000008042800d32e99252d5d43574ed5d335746d3103573ed5cf35738d5cdb5732e08c38220a5874af0e2931b5253201a5caecb26d952bf280a24138078e60934602470c0,
  0x3b00000000000000000000280096b2373bad5d43574ed5d335746dcd03573ed5cf35738d5cdb5b34d5cccec313b0baa99d2eb38b086d494c95d964db2a5dc50b2c901c905051ea6c30af84a990735302478e3,
  0x1d00000000000000000000003ae4aec3652f7943de4ef7933de46e4903de3ef78f3de38f78dbde32ee8c3ba20ad874be0e2c39b57e3201c5cbc0b284952fa280f04144c79000937e02470c2,
  0x1b40000000030000000080000e1d19f434d0554f0a99c151342a260544b0a894151242a24053470a68c14d1429a2053430a68414f0429df853be0a73414c5013480200950c0e41168,
  0x1e00000000000000000000003ae4aec3c52f7943de4ef7933de46e4903de3ef78f3de38f78dbde32f34c3cd20ad874be0e2c39b57e3201c5cbc0b284952fa280f04144c79000937e02470c2,
  0x2100000000000000000000003ae4aec3e52f7943de4ef7933de46e4903de3ef78f3de38f78dbde32f38c3ce20ad874be0e2c39b57e3201c5cbc0b284952fa280f04144c79000937e02470c2,
  0xdc0000000000004000000000000000e0000000000000000200010003e4d289e7d19341793c2ee705d4d0ba981752c2ea505d490ba901711c2e2305c450b8881710c2e2105cc10b97e172f826ce85c9a0b8280a0402606024895180e81983,
  0x1400003fffb1800000014444270e8ce29f1240818,
  0xa03b0000000000000000000204000001400003fffb000040019040c20114576b668088b943105320e81033,
  0xdceeb5750d5d3b574cd5d1b7340d5cfb573cd5ce35736d5ccce431390bc78251e08aa99d2eb38b086d494c95d964db2a5dc50b109033905051ea6e30c4c515f091c402078e0,
  0x1d000000000000000000000038c96ec9e52ca9432a4eca9332a46c95032a3eca8f32a38ca8db2a3302cc40b20ab874bc4e2c29b57c320165cba8b281952f4280dc4142c79008931e02470c2,
  0x1e000000000000000000000038c96eca052ca9432a4eca9332a46c95032a3eca8f32a38ca8db2a33030c40c20ab874bc4e2c29b57c320165cba8b281952f4280dc4142c79008931e02470c2,
  0x21000000000000000000000038c96eca252ca9432a4eca9332a46c95032a3eca8f32a38ca8db2a33034c40d20ab874bc4e2c29b57c320165cba8b281952f4280dc4142c79008931e02470c2,
  0xa00001fffd8c0000000a22253840008,
  0xa20001fffd8c0000000a22253840008,
  0xbb0001fffd8c0000000a22253840008,
  0xba0001fffd8c0000000a22253840008,
  0xa10001fffd8c0000000a22253840008,
  0xc20001fffd8c0000000a22253840008,
  0xa50001fffd8c0000000a22253840008,
  0xbc0001fffd8c0000000a22253840008,
  0xad0001fffd8c0000000a22253840008,
  0xa90001fffd8c0000000a22253840008,
  0xa30001fffd8c0000000a22253840008,
  0xc30001fffd8c0000000a22253840008,
  0xa60001fffd8c0000000a22253840008,
  0xbd0001fffd8c0000000a22253840008,
  0xb50001fffd8c0000000a22253840008,
  0xb70001fffd8c0000000a22253840008,
  0xaa0001fffd8c0000000a22253840008,
  0xaf0001fffd8c0000000a22253840008,
  0xae0001fffd8c0000000a22253840008,
  0xa70001fffd8c0000000a22253840008,
  0xbe0001fffd8c0000000a22253840008,
  0xb60001fffd8c0000000a22253840008,
  0xb80001fffd8c0000000a22253840008,
  0xb40001fffd8c0000000a22253840008,
  0xab0001fffd8c0000000a22253840008,
  0xb00001fffd8c0000000a22253840008,
  0xb00001fffd8c0000000a22253840008,
  0xa80001fffd8c0000000a22253840008,
  0xbf0001fffd8c0000000a22253840008,
  0xb90001fffd8c0000000a22253840008,
  0xac0001fffd8c0000000a22253840008,
  0xb10001fffd8c0000000a22253840008,
  0xb20001fffd8c0000000a22253840008,
  0xb30001fffd8c0000000a22253840008,
  0xc80001fffd8c0000000a22253840008,
  0xc70001fffd8c0000000a22253840008,
  0xc90001fffd8c0000000a22253840008,
  0x34c0000000000008002000180418e9f41cd0524f0a39c1453428a60514b0a2941452428a4050470a08c141142822050430a08414304285f850be0a13414050130801e095060e41167,
  0x3080000000000000000080001d72575ef287bc9def267bc8dc9207bc7def1e7bc71ef1b7bc65f8187e0415b0e97c1c58736afc64bc0b284952fa280f04144c79000937e02468b2,
  0x1880003fffb000040019040c00113cfa32681408024895180e41033,
  0x3080000000000000000080001d72775ef287bc9def267bc8dc9a07bc7def1e7bc71ef1b7bc65f8187e0415cce97d9c58836afc64bc0b284952fd280fa4145c79000937f02468b2,
  0x18a0003fffb000040019040c00113cfa32681408024895180e41033,
  0x630001fffd8c0000000a22253840008,
  0x640001fffd8c0000000a22253840008,
  0x3140007f8160000800320018002279f464d05c470b88c171142e2205c430b884170501408024895180e410a3,
  0x3140007f8000000800300018002279f464d05c470b88c171142e2205c430b884173042e5f85cbe0b934170501408024895180e410e3,
  0xc50001800000002000c000600089e7d1934175342ea605d4b0ba94175242ea405c470b88c171142e2205c430b884173042e5f85cbe0b934170501408024895180e41143,
  0x6280008000000010006000300044f3e8c9a0bb9c175342ea605d4b0ba94175242ea405c470b88c171142e2205c430b884173042e5f85cbe0b934170501408024895180e41153,
  0xdceeb5750d5d3b574cd5d1b7340d5cfb573cd5ce35736d5ccce431390bca8252a08aa99d2eb38b086d494c95d964db2a5dc50b109033905051eaae30c5c515f091c402078e0,
  0xdceeb5750d5d3b574cd5d1b7340d5cfb573cd5ce35736d5ccce431390bcb5252d48aa99d2eb38b086d494c95d964db2a5dc50b109033905051eac030c34515f091c402078e0,
  0x243f431d3e839a09e9e13b38272684e4c09c9613928272484e480998e13318266284cc4099861330826a084d3f09a7c13468264a2779204c200743043c501e095060e01997,
  0x1b9dd6aea1aba76ae99aba36e681ab9f6ae79ab9c6ae6dab999c86272179e44a79115533a5d671610da92992bb2c9b654bb8a1621206720a0a3cc54515f091c402078d0,
  0x2d00000000000000000100001c64b7595286549d95266548d92a06547d951e65471951b65466219888641570e9789c58536af864ba8b281952f4280dc4142c79008931e02468b2,
  0xe0000000000000000200000003e4d263a7d073418d3c31670624d0c4981892c3125062490c4901851c30a3061450c2881850c30a1061c10c37e186f830cd1e9970c22809840260601e094f50e41987,
  0x1b9dd6aea1aba76ae99aba36e681ab9f6ae79ab9c6ae6dab999c86272179e44a79115533a5d671610da92992bb2c9b654bb8a1621206720a0a3cc58515f091c402078d0,
  0x1c0000000000001000000000087c9a4c74fa0e682927851ce0a29a1453028a58514a0a292145202823850460a08a141102821850420a182142fc285f0509a0a02809840260601e095060e41977,
  0xa03b0000000000000000000204000001400003fffb0000000010505200c7d76b668078b943105320e81037,
  0x1400003fffb000040019044c20113ce2b41240813,
  0x1d80000000000000000000100000a03b0000000000000000080604000001400003fffb0000400000400200c7d76b668078b943105320ec1037,
  0x25a7431d3e839a09e9e13b38272684e4c09c9613928272484e480998e13318266284cc4099861330826a084d3f09a7c13468264a2779204c2007c30678501e095060e01997,
  0x1b9dd6aea1aba76ae99aba36e681ab9f6ae79ab9c6ae6dab999c86272179e44a79115533a5d671610da92992bb2c9b654bb8a1621206720a0a3cc64515f091c402078d0,
  0x1b9dd6aea1aba76ae99aba36e681ab9f6ae79ab9c6ae6dab999c86272179e44a79115533a5d671610da92992bb2c9b654bb8a1621206720a0a3cc68515f091c402078d0,
  0x2607431d3e839a09e9e13b38272684e4c09c9613928272484e480998e13318266284cc4099861330826a084d3f09a7c13468264a2779204c2008230780501e095060e01997,
  0x1b9dd6aea1aba76ae99aba36e681ab9f6ae79ab9c6ae6dab999c86272179e44a79115533a5d671610da92992bb2c9b654bb8a1621206720a0a3cc3c515f091c402078d0,
  0x1b9dd6aea1aba76ae99aba36e681ab9f6ae79ab9c6ae6dab999c86272179e44a79115533a5d671610da92992bb2c9b654bb8a1621206720a0a3cc40515f091c402078d0,
  0x2647431d3e839a09e9e13b38272684e4c09c9613928272484e480998e13318266284cc4099861330826a084d3f09a7c13468264a2779204c20088304f4501e095060e01997,
  0x2687431d3e839a09e9e13b38272684e4c09c9613928272484e480998e13318266284cc4099861330826a084d3f09a7c13468264a2779204c2008e305b8501e095060e01997,
  0x26c7431d3e839a09e9e13b38272684e4c09c9613928272484e480998e13318266284cc4099861330826a084d3f09a7c13468264a2779204c20094308dc501e095060e01997,
  0x42d9192dd654a1952765499952364a81951f65479951c6546d951971661c59755c3a5e271614dabe192ea2ca0654bd0a0371050b1e0ac354d861768931e02070d0,
  0x325baca9432a4eca934024b009232a46c95032a3eca8f32a38ca8db2a32ea8c3aa2eab874bc4e2c29b57c326c260ba8b281952f4280dc4142c79768934f02078c0,
  0x63b9192dd654a1952765499952364a81951f65479951c6546d951971c61c71755c3a5e271614dabe192ea2ca0654bd0a0371050b1e0bc354d861768931e02070d0,
  0x3000000000000008000080080018e9f41cd0524f0a39c1453428a60514b0a2941452428a4050470a08c141142822050430a08414304285f850be0a13414050130801e095060e41167,
  0x21bc8dceeb5750d5d3b574d3cd2b5746dcd03573ed5cf35738d5cdb573313cc44f2eaa674bace2c21b525325765936ca9771406720a0a3d4d8615f0935302078c0,
  0x325baca9432a4eca934444b111232a46c95032a3eca8f32a38ca8db2a32ea8c3aa2eab874bc4e2c29b57c326d860ba8b281952f4280dc4142c79768934f02078c0,
  0x1c0000000000000000000000087c9a4c74fa0e682927851ce0a29a1453028a58514a0a292145202823850460a08a141102821850420a182142fc285f0509a0a02809840260601e094f40e41977,
  0x31dc8dceeb5750d5d3b574d3e92b5746dcd03573ed5cf35738d5cdb573313cc44f2eaa674bace2c21b525325765936ca9771406720a0a3d4d8615f0935302078c0,
  0x325baca9432a4eca934444b111232a46c95032a3eca8f32a38ca8db2a32ea8c3aa2eab874bc4e2c29b57c326e260ba8b281952f4280dc4142c79768934f02078c0,
  0x1be000000000000000000005000c74fa0e6827a784ece09c9a13930272584e4a09c9213920266384cc60998a13310266184cc209a82134fc269f04d1a099289de48130801e095060e41177,
  0x373bad5d43574ed5d335746dcd03573ed5cf35738d5cdb5733390c4e42f3c894f222aa674bace2c21b525325765936ca977142c4240ce41414795f091c402078c0,
  0x3140007f816000000002020a0018e9f41cd04cc70998c13314266204cc30998413250130801e095060e410a7,
  0x3140007f800000000000020a0018e9f41cd04cc70998c13314266204cc30998413504269f84d3e09a3413250130801e095060e410e7,
  0xc500018000000000000008280063a7d073413934272604e4b09c9413924272404cc70998c13314266204cc30998413504269f84d3e09a3413250130801e095060e41147,
  0x6280008000000000000004140031d3e839a09d9c13934272604e4b09c9413924272404cc70998c13314266204cc30998413504269f84d3e09a3413250130801e095060e41157,
  0x1c00000000000000000080000094fa4c74fa0e6831a7862ce0c49a1893031258624a0c4921892030a3861460c28a1851030a1861420c382186fc30df0619a0c22809840330601e095060e41977,
  0xa00001fffd80002000c822650040003,
  0x140760000000000000000000408000002800007fff600000002248084018faed6cd143105320e81027,
  0x630001fffd80002000c822650040003,
  0xa20001fffd80002000c822650040003,
  0xbb0001fffd80002000c822650040003,
  0xba0001fffd80002000c822650040003,
  0xa10001fffd80002000c822650040003,
  0xc20001fffd80002000c822650040003,
  0x640001fffd80002000c822650040003,
  0xa50001fffd80002000c822650040003,
  0xbc0001fffd80002000c822650040003,
  0xad0001fffd80002000c822650040003,
  0xa90001fffd80002000c822650040003,
  0xa30001fffd80002000c822650040003,
  0xc30001fffd80002000c822650040003,
  0xa60001fffd80002000c822650040003,
  0xbd0001fffd80002000c822650040003,
  0xb50001fffd80002000c822650040003,
  0xb70001fffd80002000c822650040003,
  0xaa0001fffd80002000c822650040003,
  0xaf0001fffd80002000c822650040003,
  0xae0001fffd80002000c822650040003,
  0xa70001fffd80002000c822650040003,
  0xbe0001fffd80002000c822650040003,
  0xb60001fffd80002000c822650040003,
  0xb80001fffd80002000c822650040003,
  0xb40001fffd80002000c822650040003,
  0xab0001fffd80002000c822650040003,
  0xb00001fffd80002000c822650040003,
  0xb00001fffd80002000c822650040003,
  0xa80001fffd80002000c822650040003,
  0xbf0001fffd80002000c822650040003,
  0xb90001fffd80002000c822650040003,
  0xac0001fffd80002000c822650040003,
  0xb10001fffd80002000c822650040003,
  0xb20001fffd80002000c822650040003,
  0xb30001fffd80002000c822650040003,
  0xc80001fffd80002000c822650040003,
  0xc70001fffd80002000c822650040003,
  0xc90001fffd80002000c822650040003,
  0x325baca9432a4eca934104b041232a46c95032a3eca8f32a38ca8db2a32ea8c3aa2eab874bc4e2c29b57c3266860ba8b281952f4280dc4142c79768934f02078c0,
  0x325baca9432a4eca934444b111232a46c95032a3eca8f32a38ca8db2a32ea8c3aa2eab874bc4e2c29b57c3267e60ba8b281952f4280dc4142c79768934f02078c0,
  0x325baca9432a4eca934444b111232a46c95032a3eca8f32a38ca8db2a32ea8c3aa2eab874bc4e2c29b57c3268660ba8b281952f4280dc4142c79768934f02078c0,
  0x3140007f81600000002240080018e9f41cd061470c28c1851430a2061430c28418450130801e095060e410a7,
  0x3140007f80000000002040080018e9f41cd061470c28c1851430a2061430c2841870430df861be0c33418450130801e095060e410e7,
  0xc500018000000000008100200063a7d07341893431260624b0c494189243124061470c28c1851430a2061430c2841870430df861be0c33418450130801e095060e41147,
  0x6280008000000000004080100031d3e839a0c59c1893431260624b0c494189243124061470c28c1851430a2061430c2841870430df861be0c33418450130801e095060e41157,
  0x325baca9432a4eca934164b059232a46c95032a3eca8f32a38ca8db2a32ea8c3aa2eab874bc4e2c29b57c327d260ba8b281952f4280dc4142c79768934f02078c0,
  0x325baca9432a4eca934444b111232a46c95032a3eca8f32a38ca8db2a32ea8c3aa2eab874bc4e2c29b57c327ea60ba8b281952f4280dc4142c79768934f02078c0,
  0x325baca9432a4eca934444b111232a46c95032a3eca8f32a38ca8db2a32ea8c3aa2eab874bc4e2c29b57c327f260ba8b281952f4280dc4142c79768934f02078c0,
  0xd32e90452d5d43574ed5d335746d3103573ed5cf35738d5cdb57330c0c43020a5874af0e2931b525320165caecb26d952bf280a24138078e6093a702070c0,
  0xc96eb2a50ca93b2a4cca91b2540ca8fb2a3cca8e32a36ca8cba930ea4bac81cab874bc4e2c29b57c325d45940ca97a1403520a163cb1c69768931e02070c0,
  0x63a7d073413d3c276704e4d09c981392c272504e4909c901331c266304cc5099881330c266104d4109a7e134f8268d04c9404c20a8630434501e095060e01187,
  0x63a7d07341493c28e70514d0a2981452c28a5051490a2901411c2823050450a0881410c2821050c10a17e142f818160509a0a02822244130801e095060e01187,
  0xc772373bad5d43574ed5d335746dcd03573ed5cf35738d5cdb57333c4c4f12eaa674bace2c21b525325765936ca9771406720a0a3d4d8615f0935302070c0,
  0xc936325baca9432a4eca9332a46c95032a3eca8f32a38ca8db2a32de8c37a2eab874bc4e2c29b57c325d45940ca97a1406e20a163d4f861768931e02070c0,
  0x31d3dc829a0e6831a7862ce0c49a1893031258624a0c4921892030a3861460c28a1851030a1861420c382186fc30df0619a00b2e18450130801e095060e01977,
  0xdceeb5750d5d3b574d3d92b5746dcd03573ed5cf35738d5cdb573313cc44f2eaa674bace2c21b525325765936ca9771436e220ce41414795f0935302070c0,
  0x63a7d07341493c28e70514d0a2981452c28a5051490a2901411c2823050450a0881410c2821050c10a17e142f825560509a0a02823044130801e095060e01187,
  0xdceeb5750d5d3b574d3d92b5746dcd03573ed5cf35738d5cdb573313cc44f2eaa674bace2c21b525325765936ca97714372220ce41414795f0935302070c0,
  0x63a7d07341493c28e70514d0a2981452c28a5051490a2901411c2823050450a0881410c2821050c10a17e142f825960509a0a02823c44130801e095060e01187,
  0x64b7595286549d95268889622246548d92a06547d951e65471951b65465d5187545d570e9789c58536af864ba8b281952f4280dc4142c79768934f02078b0,
  0x1b40000000000008000000000418e9f41cd0524f0a39c1453428a60514b0a2941452428a4050470a08c141142822050430a08414304285f850be0a13414050130801e095060e41167,
  0x34c00000000000000000000a0018e9f41cd04f4f09d9c13934272604e4b09c9413924272404cc70998c13314266204cc30998413504269f84d3e09a3413250130801e095060e41167,
  0xd32e90452d5d43574ed5d335746d3103573ed5cf35738d5cdb57330c0c43020a5874af0e2931b525320165caecb26d952bf280a24138078e60934602070c0,
  0x63a7d073413d3c276704e4d09c981392c272504e4909c901331c266304cc5099881330c266104d4109a7e134f8268d04c9404c20ab430670501e095060e01187,
  0x63a7d07341493c28e70514d0a2981452c28a5051490a2901411c2823050450a0881410c2821050c10a17e142f81b160509a0a02834044130801e095060e01187,
  0xdceeb5750d5d3b574d3d92b5746dcd03573ed5cf35738d5cdb573313cc44f2eaa674bace2c21b525325765936ca97714341220ce41414795f0935302070c0,
  0x63a7d07341493c28e70514d0a2981452c28a5051490a2901411c2823050450a0881410c2821050c10a17e142f836560509a0a02834e44130801e095060e01187,
  0xdceeb5750d5d3b574d3d92b5746dcd03573ed5cf35738d5cdb573313cc44f2eaa674bace2c21b525325765936ca97714344220ce41414795f0935302070c0,
  0x63a7d07341493c28e70514d0a2981452c28a5051490a2901411c2823050450a0881410c2821050c10a17e142f836960509a0a02835a44130801e095060e01187,
  0x34c0000000000000000040080018e9f41cd0634f0c59c1893431260624b0c494189243124061470c28c1851430a2061430c2841870430df861be0c33418450130801e095060e41167,
  0xd32e9d552d5d43574ed5d335746d3103573ed5cf35738d5cdb573317cc45f20a5874af0e2931b5253201e5caecb26d952bf280a24138078e60934602070c0,
  0x63a7d073413d3c276704e4d09c981392c272504e4909c901331c266304cc5099881330c266104d4109a7e134f8268d04c9404c20ac630778501e095060e01187,
  0x63a7d07341493c28e70514d0a2981452c28a5051490a2901411c2823050450a0881410c2821050c10a17e142f81c560509a0a0283c444130801e095060e01187,
  0xdceeb5750d5d3b574d3d92b5746dcd03573ed5cf35738d5cdb573313cc44f2eaa674bace2c21b525325765936ca977143f7220ce41414795f0935302070c0,
  0x63a7d07341493c28e70514d0a2981452c28a5051490a2901411c2823050450a0881410c2821050c10a17e142f837560509a0a0283d244130801e095060e01187,
  0xdceeb5750d5d3b574d3d92b5746dcd03573ed5cf35738d5cdb573313cc44f2eaa674bace2c21b525325765936ca977143fa220ce41414795f0935302070c0,
  0x63a7d07341493c28e70514d0a2981452c28a5051490a2901411c2823050450a0881410c2821050c10a17e142f837960509a0a0283de44130801e095060e01187,
  0xd32e93152d5d43574ed5d335746d3103573ed5cf35738d5cdb5733190c46420a5874af0e2931b525320205caecb26d952bf280a24138078e60934602070c0,
  0x63a7d073413d3c276704e4d09c981392c272504e4909c901331c266304cc5099881330c266104d4109a7e134f8268d04c9404c20ad4304ec501e095060e01187,
  0x63a7d07341493c28e70514d0a2981452c28a5051490a2901411c2823050450a0881410c2821050c10a17e142f81d960509a0a02827e44130801e095060e01187,
  0x63a7d07341493c28e70514d0a2981452c28a5051490a2901411c2823050450a0881410c2821050c10a17e142f838560509a0a02828c44130801e095060e01187,
  0x63a7d07341493c28e70514d0a2981452c28a5051490a2901411c2823050450a0881410c2821050c10a17e142f838960509a0a02829844130801e095060e01187,
  0xd32e96252d5d43574ed5d335746d3103573ed5cf35738d5cdb57331a4c46920a5874af0e2931b525320225caecb26d952bf280a24138078e60934602070c0,
  0x63a7d073413d3c276704e4d09c981392c272504e4909c901331c266304cc5099881330c266104d4109a7e134f8268d04c9404c20ae2305b0501e095060e01187,
  0x63a7d07341493c28e70514d0a2981452c28a5051490a2901411c2823050450a0881410c2821050c10a17e142f81ed60509a0a0282e044130801e095060e01187,
  0x63a7d07341493c28e70514d0a2981452c28a5051490a2901411c2823050450a0881410c2821050c10a17e142f839560509a0a0282ee44130801e095060e01187,
  0x63a7d07341493c28e70514d0a2981452c28a5051490a2901411c2823050450a0881410c2821050c10a17e142f839960509a0a0282fa44130801e095060e01187,
  0xd32ea2b52d5d43574ed5d335746d3103573ed5cf35738d5cdb57331b8c46e20a5874af0e2931b525320245caecb26d952bf280a24138078e60934602070c0,
  0x63a7d073413d3c276704e4d09c981392c272504e4909c901331c266304cc5099881330c266104d4109a7e134f8268d04c9404c20af0308d4501e095060e01187,
  0x63a7d07341493c28e70514d0a2981452c28a5051490a2901411c2823050450a0881410c2821050c10a17e142f820160509a0a02847244130801e095060e01187,
  0x63a7d07341493c28e70514d0a2981452c28a5051490a2901411c2823050450a0881410c2821050c10a17e142f83a560509a0a02848044130801e095060e01187,
  0x63a7d07341493c28e70514d0a2981452c28a5051490a2901411c2823050450a0881410c2821050c10a17e142f83a960509a0a02848c44130801e095060e01187,
  0xd32e90452d5d43574ed5d335746d3103573ed5cf35738d5cdb57330c0c43020a5874af0e2931b525320165caecb26d952bf280a24138078e6093fb02070c0,
  0xc74fa0e6827a784ece09c9a13930272584e4a09c9213920266384cc60998a13310266184cc209a82134fc269f04d1a099280984040c501e095060e01177,
  0xc74fa0e682927851ce0a29a1453028a58514a0a292145202823850460a08a141102821850420a182142fc285f0509a0a02858c44130801e095060e01177,
  0x373bad5d43574ed5d335746dcd03573ed5cf35738d5cdb57331e8c47a2eaa674bace2c21b525325765936ca9771406720a0a3c414515f0935302068c0,
  0x1b9dd6aea1aba76ae9a3da56ae8db9a06ae7dab9e6ae71ab9b6ae66279889e5d54ce9759c58436a4a64aecb26d952ee280ce41414795f0935302070b0,
  0xc74fa0e682927851ce0a29a1453028a58514a0a292145202823850460a08a141102821850420a182142fc285f0509a0a028098400f04a83070180601177,
  0x2240000000000000000040000018e9f41cd0634f0c59c1893431260624b0c494189243124061470c28c1851430a2061430c2841870430df861be0c33418450130801e095060e41167,
  0xc74fa0e682927851ce0a29a1453028a58514a0a292145202823850460a08a141102821850420a182142fc285f0509a0a028098400f04a830701a0601177,
  0x373bad5d43574ed5d335746dcd03573ed5cf35738d5cdb57335acc56b2eaa674bace2c21b525325765936ca97714547260ce41414795f0935302068c0,
  0x373bad5d43574ed5d335746dcd03573ed5cf35738d5cdb5733244c4912eaa674bace2c21b525325765936ca97714115220ce41414795f0935302068c0,
  0x2280000000000000000040000018e9f41cd0634f0c59c1893431260624b0c494189243124061470c28c1851430a2061430c2841870430df861be0c33418450130801e095060e41167,
  0x373bad5d43574ed5d335746dcd03573ed5cf35738d5cdb5733244c4912eaa674bace2c21b525325765936ca9771411c220ce41414795f0935302068c0,
  0x373bad5d43574ed5d335746dcd03573ed5cf35738d5cdb573356cc55b2eaa674bace2c21b525325765936ca9771454a260ce41414795f0935302068c0,
  0x373bad5d43574ed5d335746dcd03573ed5cf35738d5cdb573356cc55b2eaa674bace2c21b525325765936ca9771454b260ce41414795f0935302068c0,
  0x1bc0000000000008000000000018e9f41cd0524f0a39c1453428a60514b0a2941452428a4050470a08c141142822050430a08414304285f850be0a13414050130801e095060e41167,
  0x1b9dd6aea1aba76ae9a7b256ae8db9a06ae7dab9e6ae71ab9b6ae66279889e5d54ce9759c58436a4a64aecb26d952ee280ce41414795f0935302070b0,
  0xc74fa0e682927851ce0a29a1453028a58514a0a292145202823850460a08a141102821850420a182142fc285f0509a0a02823e44130801e095060e01177,
  0xc74fa0e682927851ce0a29a1453028a58514a0a292145202823850460a08a141102821850420a182142fc285f0509a0a02824044130801e095060e01177,
  0x373bad5d43574ed5d335746dcd03573ed5cf35738d5cdb573356cc55b2eaa674bace2c21b525325765936ca9771454e260ce41414795f0935302068c0,
  0x1b40000000000000000040000018e9f41cd0634f0c59c1893431260624b0c494189243124061470c28c1851430a2061430c2841870430df861be0c33418450130801e095060e41167,
  0xc74fa0e6827a784ece09c9a13930272584e4a09c9213920266384cc60998a13310266184cc209a82134fc269f04d1a0992809840644501e095060e01177,
  0xc74fa0e682927851ce0a29a1453028a58514a0a292145202823850460a08a141102821850420a182142fc285f0509a0a0285a644130801e095060e01177,
  0x373bad5d43574ed5d335746dcd03573ed5cf35738d5cdb57332a4c4a92eaa674bace2c21b525325765936ca9771406720a0a3c650515f0935302068c0,
  0x373bad5d43574ed5d335746dcd03573ed5cf35738d5cdb5733244c4912eaa674bace2c21b525325765936ca977141a4220ce41414795f0935302068c0,
  0x373bad5d43574ed5d335746dcd03573ed5cf35738d5cdb5733244c4912eaa674bace2c21b525325765936ca977141ab220ce41414795f0935302068c0,
  0xc74fa0e682927851ce0a29a1453028a58514a0a292145202823850460a08a141102821850420a182142fc285f0509a0a02835c44130801e095060e01177,
  0xc74fa0e682927851ce0a29a1453028a58514a0a292145202823850460a08a141102821850420a182142fc285f0509a0a02835e44130801e095060e01177,
  0xc74fa0e6827a784ece09c9a13930272584e4a09c9213920266384cc60998a13310266184cc209a82134fc269f04d1a0992809840750501e095060e01177,
  0xc74fa0e682927851ce0a29a1453028a58514a0a292145202823850460a08a141102821850420a182142fc285f0509a0a0285b044130801e095060e01177,
  0x373bad5d43574ed5d335746dcd03573ed5cf35738d5cdb57332d8c4b62eaa674bace2c21b525325765936ca9771406720a0a3c758515f0935302068c0,
  0x373bad5d43574ed5d335746dcd03573ed5cf35738d5cdb5733244c4912eaa674bace2c21b525325765936ca977141e6220ce41414795f0935302068c0,
  0x373bad5d43574ed5d335746dcd03573ed5cf35738d5cdb5733244c4912eaa674bace2c21b525325765936ca977141ed220ce41414795f0935302068c0,
  0xc74fa0e682927851ce0a29a1453028a58514a0a292145202823850460a08a141102821850420a182142fc285f0509a0a0283e044130801e095060e01177,
  0xc74fa0e682927851ce0a29a1453028a58514a0a292145202823850460a08a141102821850420a182142fc285f0509a0a0283e244130801e095060e01177,
  0xc74fa0e6827a784ece09c9a13930272584e4a09c9213920266384cc60998a13310266184cc209a82134fc269f04d1a09928098404c0501e095060e01177,
  0xc74fa0e682927851ce0a29a1453028a58514a0a292145202823850460a08a141102821850420a182142fc285f0509a0a0285ba44130801e095060e01177,
  0x373bad5d43574ed5d335746dcd03573ed5cf35738d5cdb5733304c4c12eaa674bace2c21b525325765936ca9771406720a0a3c4cc515f0935302068c0,
  0x373bad5d43574ed5d335746dcd03573ed5cf35738d5cdb5733244c4912eaa674bace2c21b525325765936ca97714143220ce41414795f0935302068c0,
  0x373bad5d43574ed5d335746dcd03573ed5cf35738d5cdb5733244c4912eaa674bace2c21b525325765936ca9771414a220ce41414795f0935302068c0,
  0xc74fa0e682927851ce0a29a1453028a58514a0a292145202823850460a08a141102821850420a182142fc285f0509a0a02829a44130801e095060e01177,
  0xc74fa0e682927851ce0a29a1453028a58514a0a292145202823850460a08a141102821850420a182142fc285f0509a0a02829c44130801e095060e01177,
  0xc74fa0e6827a784ece09c9a13930272584e4a09c9213920266384cc60998a13310266184cc209a82134fc269f04d1a0992809840584501e095060e01177,
  0xc74fa0e682927851ce0a29a1453028a58514a0a292145202823850460a08a141102821850420a182142fc285f0509a0a0285c444130801e095060e01177,
  0x373bad5d43574ed5d335746dcd03573ed5cf35738d5cdb5733324c4c92eaa674bace2c21b525325765936ca9771406720a0a3c590515f0935302068c0,
  0x373bad5d43574ed5d335746dcd03573ed5cf35738d5cdb5733244c4912eaa674bace2c21b525325765936ca97714174220ce41414795f0935302068c0,
  0x373bad5d43574ed5d335746dcd03573ed5cf35738d5cdb5733244c4912eaa674bace2c21b525325765936ca9771417b220ce41414795f0935302068c0,
  0xc74fa0e682927851ce0a29a1453028a58514a0a292145202823850460a08a141102821850420a182142fc285f0509a0a0282fc44130801e095060e01177,
  0xc74fa0e682927851ce0a29a1453028a58514a0a292145202823850460a08a141102821850420a182142fc285f0509a0a0282fe44130801e095060e01177,
  0xc74fa0e6827a784ece09c9a13930272584e4a09c9213920266384cc60998a13310266184cc209a82134fc269f04d1a09928098408a8501e095060e01177,
  0xc74fa0e682927851ce0a29a1453028a58514a0a292145202823850460a08a141102821850420a182142fc285f0509a0a0285ce44130801e095060e01177,
  0x373bad5d43574ed5d335746dcd03573ed5cf35738d5cdb5733344c4d12eaa674bace2c21b525325765936ca9771406720a0a3c8b4515f0935302068c0,
  0x373bad5d43574ed5d335746dcd03573ed5cf35738d5cdb5733244c4912eaa674bace2c21b525325765936ca9771423d220ce41414795f0935302068c0,
  0x373bad5d43574ed5d335746dcd03573ed5cf35738d5cdb5733244c4912eaa674bace2c21b525325765936ca97714244220ce41414795f0935302068c0,
  0xc74fa0e682927851ce0a29a1453028a58514a0a292145202823850460a08a141102821850420a182142fc285f0509a0a02848e44130801e095060e01177,
  0xc74fa0e682927851ce0a29a1453028a58514a0a292145202823850460a08a141102821850420a182142fc285f0509a0a02849044130801e095060e01177,
  0x1b9dd6aea1aba76ae9a55256ae8db9a06ae7dab9e6ae71ab9b6ae66279889e5d54ce9759c58436a4a64aecb26d952ee280ce41414795f0935302070b0,
  0x1b9dd6aea1aba76ae9a5ba56ae8db9a06ae7dab9e6ae71ab9b6ae66279889e5d54ce9759c58436a4a64aecb26d952ee280ce41414795f0935302070b0,
  0x69975aba86ae9daba66ae8da6206ae7dab9e6ae71ab9b6ae65ac986b25d4b0e95e1c52636a4a64aecb26d952bf280a241380795f0934602068b0,
  0x69975aba86ae9daba66ae8da6206ae7dab9e6ae71ab9b6ae65ad186b45cb04e95e1c52636a4a64aecb26d952bf280a241380795f0934602068b0,
  0x69975aba86ae9daba66ae8da6206ae7dab9e6ae71ab9b6ae65af186bc5d4b0e95e1c52636a4a64aecb26d952bf280a241380795f0934602068b0,
  0x6e775aba86ae9daba66ae8db9a06ae7dab9e6ae71ab9b6ae669c18a705d54ce9759c58436a4a64aecb26d952ee280ce41414795f0935302068b0,
  0x69975aba86ae9daba66ae8da6206ae7dab9e6ae71ab9b6ae65b0186c05d4b0e95e1c52636a4a64aecb26d952bf280a241380795f0934602068b0,
  0x6e775aba86ae9daba66ae8db9a06ae7dab9e6ae71ab9b6ae669c98a725d54ce9759c58436a4a64aecb26d952ee280ce41414795f0935302068b0,
  0x69975aba86ae9daba66ae8da6206ae7dab9e6ae71ab9b6ae65b1186c45d4b0e9611c52636a4a64aecb26d952bf280a241380795f0934602068b0,
  0x69975aba86ae9daba66ae8da6206ae7dab9e6ae71ab9b6ae65b1986c65cb04e95e1c52636a4a64aecb26d952bf280a241380795f0934602068b0,
  0x6e775aba86ae9daba66ae8db9a06ae7dab9e6ae71ab9b6ae663f188fc5d54ce9759c58436a4a64aecb26d952ee280ce41414795f0935302068b0,
  0x6e775aba86ae9daba66ae8db9a06ae7dab9e6ae71ab9b6ae6675989d65d54ce9759c58436a4a64aecb26d952ee280ce41414795f0935302068b0,
  0x6e775aba86ae9daba66ae8db9a06ae7dab9e6ae71ab9b6ae669e98a7a5d54ce9759c58436a4a64aecb26d952ee280ce41414795f0935302068b0,
  0x69975aba86ae9daba66ae8da6206ae7dab9e6ae71ab9b6ae65b2986ca5d4b0e95e1c52636a4a64aecb26d952bf280a241380795f0934602068b0,
  0x64b7595286549d95266548d92a06547d951e65471951b65465de187785d570e9789c58536af864ba8b281952f4280dc4142c79768931e02068b0,
  0x64b7595286549d95266548d92a06547d951e65471951b65465de9877a5d570e9789c58536af864ba8b281952f4280dc4142c79768931e02068b0,
  0x69975aba86ae9daba66ae8da6206ae7dab9e6ae71ab9b6ae65b4186d05d4b0e95e1c52636a4a64aecb26d952bf280a241380795f0934602068b0,
  0x6e775aba86ae9daba66ae8db9a06ae7dab9e6ae71ab9b6ae66a218a885d54ce9759c58436a4a64aecb26d952ee280ce41414795f0935302068b0,
  0x6e775aba86ae9daba66ae8db9a06ae7dab9e6ae71ab9b6ae6678189e05d54ce9759c58436a4a64aecb26d952ee280ce41414795f0935302068b0,
  0x64b7595286549d95266548d92a06547d951e65471951b6546604988125d570e9789c58536af864ba8b281952f4280dc4142c79768931e02068b0,
  0x69975aba86ae9daba66ae8da6206ae7dab9e6ae71ab9b6ae65b6986da5d4b0e95e1c52636a4a64aecb26d952bf280a241380795f0934602068b0,
  0x6e775aba86ae9daba66ae8db9a06ae7dab9e6ae71ab9b6ae66469891a5d54ce9759c58436a4a64aecb26d952ee280ce41414795f0935302068b0,
  0x18e9f41cd0524f0a39c1453428a60514b0a2941452428a4050470a08c141142822050430a08414304285f850be0a13414050130801e094fd0e01167,
  0x6e775aba86ae9daba66ae8db9a06ae7dab9e6ae71ab9b6ae6648989225d54ce9759c58436a4a64aecb26d952ee280ce41414795f0935302068b0,
  0x6e775aba86ae9daba66ae8db9a06ae7dab9e6ae71ab9b6ae65b1186c45d54ce9691c58436a4a64aecb26d952ee280ce41414795f0935302068b0,
  0x6e775aba86ae9daba66ae8db9a06ae7dab9e6ae71ab9b6ae65b1986c65cb44e9759c58436a4a64aecb26d952ee280ce41414795f0935302068b0,
  0x6e775aba86ae9daba66ae8db9a06ae7dab9e6ae71ab9b6ae65b2986ca5d54ce9759c58436a4a64aecb26d952ee280ce41414795f0935302068b0,
  0x6e775aba86ae9daba66ae8db9a06ae7dab9e6ae71ab9b6ae65b4186d05d54ce9759c58436a4a64aecb26d952ee280ce41414795f0935302068b0,
  0x6e775aba86ae9daba66ae8db9a06ae7dab9e6ae71ab9b6ae65b6986da5d54ce9759c58436a4a64aecb26d952ee280ce41414795f0935302068b0,
  0x64b7595286549d95266548d92a06547d951e65471951b654659a9866a5d570e96b9c58536af864ba8b281952f4280dc4142c79768931e02068b0,
  0x64b7595286549d95266548d92a06547d951e65471951b654659b1866c5cb58e9789c58536af864ba8b281952f4280dc4142c79768931e02068b0,
  0x64b7595286549d95266548d92a06547d951e65471951b654659c186705d570e9789c58536af864ba8b281952f4280dc4142c79768931e02068b0,
  0x64b7595286549d95266548d92a06547d951e65471951b654659d986765d570e9789c58536af864ba8b281952f4280dc4142c79768931e02068b0,
  0x64b7595286549d95266548d92a06547d951e65471951b65465a0186805d570e9789c58536af864ba8b281952f4280dc4142c79768931e02068b0,
  0x64d7595286549d95266548d93206547d951e65471951b654659a9866a5d594e96e1c58636af864ba8b281952f7280e64143c79768931f02068b0,
  0x64d7595286549d95266548d93206547d951e65471951b654659b1866c5cb6ce97a9c58636af864ba8b281952f7280e64143c79768931f02068b0,
  0x64d7595286549d95266548d93206547d951e65471951b654659c186705d594e97a9c58636af864ba8b281952f7280e64143c79768931f02068b0,
  0x64d7595286549d95266548d93206547d951e65471951b654659d986765d594e97a9c58636af864ba8b281952f7280e64143c79768931f02068b0,
  0x64d7595286549d95266548d93206547d951e65471951b65465a0186805d594e97a9c58636af864ba8b281952f7280e64143c79768931f02068b0,
  0x72575ef287bc9def267bc8dc9207bc7def1e7bc71ef1b7bc65f5187d45d5b0e9709c58736afc64bc0b284952fa280f04144c79798937e02068b0,
  0x72575ef287bc9def267bc8dc9207bc7def1e7bc71ef1b7bc65f5987d65cb80e97c1c58736afc64bc0b284952fa280f04144c79798937e02068b0,
  0x72575ef287bc9def267bc8dc9207bc7def1e7bc71ef1b7bc65f7187dc5d5b0e97c1c58736afc64bc0b284952fa280f04144c79798937e02068b0,
  0x72575ef287bc9def267bc8dc9207bc7def1e7bc71ef1b7bc65f8987e25d5b0e97c1c58736afc64bc0b284952fa280f04144c79798937e02068b0,
  0x72575ef287bc9def267bc8dc9207bc7def1e7bc71ef1b7bc65fb187ec5d5b0e97c1c58736afc64bc0b284952fa280f04144c79798937e02068b0,
  0x72775ef287bc9def267bc8dc9a07bc7def1e7bc71ef1b7bc65f5187d45d5cce9731c58836afc64bc0b284952fd280fa4145c79798937f02068b0,
  0x72775ef287bc9def267bc8dc9a07bc7def1e7bc71ef1b7bc65f5987d65cb94e97d9c58836afc64bc0b284952fd280fa4145c79798937f02068b0,
  0x72775ef287bc9def267bc8dc9a07bc7def1e7bc71ef1b7bc65f7187dc5d5cce97d9c58836afc64bc0b284952fd280fa4145c79798937f02068b0,
  0x72775ef287bc9def267bc8dc9a07bc7def1e7bc71ef1b7bc65f8987e25d5cce97d9c58836afc64bc0b284952fd280fa4145c79798937f02068b0,
  0x72775ef287bc9def267bc8dc9a07bc7def1e7bc71ef1b7bc65fb187ec5d5cce97d9c58836afc64bc0b284952fd280fa4145c79798937f02068b0,
  0x64d7595286549d95266548d93206547d951e65471951b6546596186585d594e97a9c58636af864ba8b281952f7280e64143c79768931f02068b0,
  0x6e775aba86ae9daba66ae8db9a06ae7dab9e6ae71ab9b6ae65ad186b45cb44e9759c58436a4a64aecb26d952ee280ce41414795f0935302068b0,
  0x6e775aba86ae9daba66ae8db9a06ae7dab9e6ae71ab9b6ae65af186bc5d54ce9759c58436a4a64aecb26d952ee280ce41414795f0935302068b0,
  0x6e775aba86ae9daba66ae8db9a06ae7dab9e6ae71ab9b6ae66a818aa05d54ce9759c58436a4a64aecb26d952ee280ce41414795f0935302068b0,
  0x6e775aba86ae9daba66ae8db9a06ae7dab9e6ae71ab9b6ae65b0186c05d54ce9759c58436a4a64aecb26d952ee280ce41414795f0935302068b0,
  0x6e775aba86ae9daba66ae8db9a06ae7dab9e6ae71ab9b6ae6651989465d54ce9759c58436a4a64aecb26d952ee280ce41414795f0935302068b0,
  0x72775ef287bc9def267bc8dc9a07bc7def1e7bc71ef1b7bc65f0187c05d5cce97d9c58836afc64bc0b284952fd280fa4145c79798937f02068b0,
  0x64b7595286549d95266548d92a06547d951e65471951b65465969865a5cb58e9789c58536af864ba8b281952f4280dc4142c79768931e02068b0,
  0x64b7595286549d95266548d92a06547d951e65471951b6546598986625d570e9789c58536af864ba8b281952f4280dc4142c79768931e02068b0,
  0x6e775aba86ae9daba66ae8db9a06ae7dab9e6ae71ab9b6ae66a898aa25d54ce9759c58436a4a64aecb26d952ee280ce41414795f0935302068b0,
  0x64b7595286549d95266548d92a06547d951e65471951b6546599986665d570e9789c58536af864ba8b281952f4280dc4142c79768931e02068b0,
  0x64d7595286549d95266548d93206547d951e65471951b65465969865a5cb6ce97a9c58636af864ba8b281952f7280e64143c79768931f02068b0,
  0x64d7595286549d95266548d93206547d951e65471951b6546598986625d594e97a9c58636af864ba8b281952f7280e64143c79768931f02068b0,
  0x64d7595286549d95266548d93206547d951e65471951b6546599986665d594e97a9c58636af864ba8b281952f7280e64143c79768931f02068b0,
  0x72575ef287bc9def267bc8dc9207bc7def1e7bc71ef1b7bc65f0987c25cb80e97c1c58736afc64bc0b284952fa280f04144c79798937e02068b0,
  0x72575ef287bc9def267bc8dc9207bc7def1e7bc71ef1b7bc65f3187cc5d5b0e97c1c58736afc64bc0b284952fa280f04144c79798937e02068b0,
  0x72575ef287bc9def267bc8dc9207bc7def1e7bc71ef1b7bc65f4187d05d5b0e97c1c58736afc64bc0b284952fa280f04144c79798937e02068b0,
  0x72775ef287bc9def267bc8dc9a07bc7def1e7bc71ef1b7bc65f0987c25cb94e97d9c58836afc64bc0b284952fd280fa4145c79798937f02068b0,
  0x72775ef287bc9def267bc8dc9a07bc7def1e7bc71ef1b7bc65f3187cc5d5cce97d9c58836afc64bc0b284952fd280fa4145c79798937f02068b0,
  0x72775ef287bc9def267bc8dc9a07bc7def1e7bc71ef1b7bc65f4187d05d5cce97d9c58836afc64bc0b284952fd280fa4145c79798937f02068b0,
  0x6e775aba86ae9daba66ae8db9a06ae7dab9e6ae71ab9b6ae66ac18ab05d54ce9759c58436a4a64aecb26d952ee280ce41414795f0935302068b0,
  0x6e775aba86ae9daba66ae8db9a06ae7dab9e6ae71ab9b6ae6656189585d54ce9759c58436a4a64aecb26d952ee280ce41414795f0935302068b0,
  0x6e775aba86ae9daba66ae8db9a06ae7dab9e6ae71ab9b6ae66ad98ab65d54ce9759c58436a4a64aecb26d952ee280ce41414795f0935302068b0,
  0x6e775aba86ae9daba66ae8db9a06ae7dab9e6ae71ab9b6ae66b098ac25d54ce9759c58436a4a64aecb26d952ee280ce41414795f0935302068b0,
  0x6e775aba86ae9daba66ae8db9a06ae7dab9e6ae71ab9b6ae665c989725d54ce9759c58436a4a64aecb26d952ee280ce41414795f0935302068b0,
  0x6e775aba86ae9daba66ae8db9a06ae7dab9e6ae71ab9b6ae66b218ac85d54ce9759c58436a4a64aecb26d952ee280ce41414795f0935302068b0,
  0x6e775aba86ae9daba66ae8db9a06ae7dab9e6ae71ab9b6ae66b418ad05d54ce9759c58436a4a64aecb26d952ee280ce41414795f0935302068b0,
  0x6e775aba86ae9daba66ae8db9a06ae7dab9e6ae71ab9b6ae6661989865d54ce9759c58436a4a64aecb26d952ee280ce41414795f0935302068b0,
  0x6e775aba86ae9daba66ae8db9a06ae7dab9e6ae71ab9b6ae66b598ad65d54ce9759c58436a4a64aecb26d952ee280ce41414795f0935302068b0,
  0x6e775aba86ae9daba66ae8db9a06ae7dab9e6ae71ab9b6ae66b798ade5d54ce9759c58436a4a64aecb26d952ee280ce41414795f0935302068b0,
  0x6e775aba86ae9daba66ae8db9a06ae7dab9e6ae71ab9b6ae6665989965d54ce9759c58436a4a64aecb26d952ee280ce41414795f0935302068b0,
  0x6e775aba86ae9daba66ae8db9a06ae7dab9e6ae71ab9b6ae66b918ae45d54ce9759c58436a4a64aecb26d952ee280ce41414795f0935302068b0,
  0x6e775aba86ae9daba66ae8db9a06ae7dab9e6ae71ab9b6ae66bb18aec5d54ce9759c58436a4a64aecb26d952ee280ce41414795f0935302068b0,
  0x6e775aba86ae9daba66ae8db9a06ae7dab9e6ae71ab9b6ae6669989a65d54ce9759c58436a4a64aecb26d952ee280ce41414795f0935302068b0,
  0x6e775aba86ae9daba66ae8db9a06ae7dab9e6ae71ab9b6ae66bc98af25d54ce9759c58436a4a64aecb26d952ee280ce41414795f0935302068b0,
  0x29000a00000c0000007fe3443c40002,
  0x2a000a00000c0000007fe3443c40002,
  0x2b000a00000c0000007fe3443c40002,
  0x2c000a00000c0000007fe3443c40002,
  0x19a0000000018000000edc6c87988e3d341840812,
  0xcd000000000c00000076e3643c40002,
  0x2900000000000020007de76c0440000,
  0x2a00000000000020007de76c0440000,
  0x2b00000000000020007de76c0440000,
  0x2c00000000000020007de76c0440000,
  0x29000000000000000075e3043e40002,
  0x2a000000000000000075e3043e40002,
  0x2b000000000000000075e3043e40002,
  0x2c000000000000000075e3043e40002,
  0x720000000000003ff9000080018e6908a1840810,
  0x1a60000000000003ff90000c0018e6988a1840810,
  0x19c0000000000000000e9c6c8098ee4d361840810,
  0x3b000a00000c0000000b004038cb8d15c905550e40824,
  0x3b000a00000c0000000b024038cb8d15c905550e40824,
  0x53560a6a814d4829a80534e0a69814d2829a4053460a68814d082a1e0531a000d0,
  0x65560caa81954832a80654e0ca981952832a4065460ca88195081b9e0361a000d0,
  0x65560caa81954832a80654e0ca981952832a4065460ca88195082c9e0651a000d0,
  0xce000000000000000074e3640440000,
  0x1ac0000000000000000e9c64809926cd3e1840810,
  0x78001400001800000016008071979a2b92040812,
  0x78001400001800000016048071979a2b92040812,
  0x65560caa81954832a80654e0ca981952832a4065460ca8819508331e0651a000d0,
  0x68560d0a81a14834280684e0d0981a1283424068460d0881a108349e0681a000d0,
  0xd7000000000000000074e3240440000,
  0x3c000a00000c0000000b02403840002,
  0x46000a00000c0000000b02403840002,
  0x47000a00000c0000000b02403840002,
  0x5f000a00000c0000000b02403840002,
  0x3e000a00000c0000000b02403840002,
  0x3d000a00000c0000000b02403840002,
  0x3a000a00000c0000000b02403840002,
  0x45000a00000c0000000b02403840002,
  0x48000a00000c0000000b02403840002,
  0x42000a00000c0000000b02403840002,
  0x56000a00000c0000000b02403840002,
  0x60000a00000c0000000b02403840002,
  0x60000a00000c0000000b02403840002,
  0xc6000a00000c0000000b02403840002,
  0x43000a00000c0000000b02403840002,
  0x49000a00000c0000000b02403840002,
  0x62000a00000c0000000b02403840002,
  0x60000a00000c0000000b02403840002,
  0x57000a00000c0000000b02403840002,
  0x3f000a00000c0000000b02403840002,
  0x4a000a00000c0000000b02403840002,
  0x58000a00000c0000000b02403840002,
  0x5e000a00000c0000000b02403840002,
  0x40000a00000c0000000b02403840002,
  0x4b000a00000c0000000b02403840002,
  0x59000a00000c0000000b02403840002,
  0x41000a00000c0000000b02403840002,
  0x1096fc25bd0902c22090901a2b5257da069a25088426f074230202863,
  0x3b000000000000200009066c00d6cd143105320e40823,
  0x1400000000000000000080000e43fbf0fef32e3483d494a6815c905550e41844,
  0x24000000000000000074e3040440000,
  0x25000000000000000074e3040440000,
  0x26000000000000000074e3040440000,
  0x112efc4bbd26c2c570926c1a0f52529a06a82515c426f074580202863,
  0x780000000000004000120cd801ae1a2862040810,
  0x44bbf12ef45708ff81a0f52529a08582915c426f074580202063,
  0x2600000000000000000100001c8717e1c5e65e6907a9294d02b92041832,
  0x76000000000000000014000071971a40840ae48100895550e41034,
  0x44bbf12ef457090ec1a0f52529a08742915c426f074580202063,
  0x2700000000000000000100001c8817e205e65e6907a9294d02b92041832,
  0x44bbf12ef457090ec1a0f52529a088c2915c426f074580202063,
  0x3b000000000000200009046800d6cd143105320e40823,
  0x44bbf12ef457090381a0f52529a09382915c426f074580202063,
  0x44bbf12ef457090ec1a0f52529a093e2915c426f074580202063,
  0x44bbf12ef457090ec1a0f52529a09482915c426f074580202063,
  0x3c000000000000200009066c0040000,
  0x46000000000000200009066c0040000,
  0x47000000000000200009066c0040000,
  0x5f000000000000200009066c0040000,
  0x3e000000000000200009066c0040000,
  0x3d000000000000200009066c0040000,
  0x3a000000000000200009066c0040000,
  0x45000000000000200009066c0040000,
  0x48000000000000200009066c0040000,
  0x42000000000000200009066c0040000,
  0x56000000000000200009066c0040000,
  0x60000000000000200009066c0040000,
  0x60000000000000200009066c0040000,
  0xc6000000000000200009066c0040000,
  0x43000000000000200009066c0040000,
  0x49000000000000200009066c0040000,
  0x62000000000000200009066c0040000,
  0x60000000000000200009066c0040000,
  0x57000000000000200009066c0040000,
  0x3f000000000000200009066c0040000,
  0x4a000000000000200009066c0040000,
  0x58000000000000200009066c0040000,
  0x5e000000000000200009066c0040000,
  0x40000000000000200009066c0040000,
  0x8977e25de8ae121d8341ea4a534115c426f074580202053,
  0x4b000000000000200009066c0040000,
  0x59000000000000200009066c0040000,
  0x41000000000000200009066c0040000,
  0x7800000000000040001208d001ae1a2862040810,
  0xf000000000000000002018b00190aed70d00f172862041020,
  0xd3aec014539d0376326be60aecb2001415b0202040,
  0x1300000000000000000080000e438bf0e2f20f52529a041022,
  0x1380000000000000000080000e440bf102f20f52529a041022,
  0x13c0000000000000000080000e441bf106f20f52529a041022,
  0xd3aec424539d0376326d660aecb2001415b0202040,
  0x14c0000000000000000080000e449bf126f20f52529a041022,
  0xd3aec424539d0376326e060aecb2001415b0202040,
  0x72000000001800000004000071bee90bf1840812,
  0x1a6000000001800000004004071bee98bf1840812,
  0x3b00000000000000000100003af88d15d1055e0e40824,
  0x3b00000000000000000102003af88d15d1055e0e40824,
  0x780000000000000000100c5800c85701e2e40810,
  0xd3aec0f4539d03763266460aecb2001415b0202040,
  0xc40000000000000000100c5800cca900d2e40810,
  0xd3aec424539d03763267c60aecb2001415b0202040,
  0xd3aec424539d03763268460aecb2001415b0202040,
  0xd3aec154539d0376327ce60aecb2001415b0202040,
  0xd3aec424539d0376327e860aecb2001415b0202040,
  0xd3aec424539d0376327f060aecb2001415b0202040,
  0x3b80000000060000000100001c39c0240012,
  0x3c80000000060000000100001c39d0240012,
  0x32800000000600000001000000719bc0242004830090440832,
  0xb80000000060000000100001c05d1a40012,
  0x3300000000060000000100000071fbc02820050300a0440832,
  0x4000000000060000000100001c4396a40012,
  0xc00000000060000000100001c0621a40012,
  0x6d00000000060000000100001c71fbe050240a038140440832,
  0x4080000000060000000100001c44a6a40012,
  0x1a75d8848a73a06ec64aecb2001415b0202030,
  0x78000000000000000002000075f19a2ba2040812,
  0x78000000000000000002040075f19a2ba2040812,
  0x6a000000000c0000000200003840002,
  0x76000000000c0000000200003840002,
  0x69000000000c0000000200003840002,
  0x6b000000000c0000000200003840002,
  0xe000000000c0000000200003840002,
  0x16000000000c0000000200003840002,
  0x33000000000c0000000200003840002,
  0x42000000000000000008062c0040000,
  0x78000000000c0000000200003840002,
  0x7a000000000c0000000200003840002,
  0x7b000000000c0000000200003840002,
  0x7d000000000c0000000200003840002,
  0x83000000000c0000000200003840002,
  0x75bc1d6c475b0d4e9d02c393ac3001830,
  0x763cdd8c9763114e9d018393b03001830,
  0x70000000000c0000000200003840002,
  0x71000000000c0000000200003840002,
  0xf000000000c0000000200003840002,
  0x1b000000000c0000000200003840002,
  0x76000000000000000002040001ad9a39040a188100095320e41033,
  0x34000000000c0000000200003840002,
  0x36000000000c0000000200003840002,
  0xb8000000000000000004000071dfee2cc3440812,
  0x84000000000c0000000200003840002,
  0x8b000000000c0000000200003840002,
  0x783c1e0c47830d4e9d02c393c03001830,
  0x789c5e247789114e9d167393c33001830,
  0x78dc1e34478d0d4e9d02c393c53001830,
  0x9c000000000c0000000200003840002,
  0x791cde449791114e9d018393c73001830,
  0x74000000000c0000000200003840002,
  0x72000000000c0000000200003840002,
  0x73000000000c0000000200003840002,
  0x2e0000000000000000000210008a5b8bbcd17f900d81240830,
  0x10000000000c0000000200003840002,
  0x13000000000c0000000200003840002,
  0x1c000000000c0000000200003840002,
  0x18000000000c0000000200003840002,
  0x3c0000000000000000000000761ea900e2e40812,
  0x35000000000c0000000200003840002,
  0x32000000000c0000000200003840002,
  0x37000000000c0000000200003840002,
  0xda000000000c0000000200003840002,
  0xba000000000000000004000071e7ee2cc3440812,
  0x8c000000000c0000000200003840002,
  0xdb000000000c00000002000000f0783c188f061e9d3a8587241820,
  0x7a5c1e9447a50d4e9d02c393d13001830,
  0x94000000000c0000000200003840002,
  0x7abc5eac77ab114e9d167393d43001830,
  0x8c000000000c0000000200003840002,
  0x783c1e0c47830d4e9d02c393d63001830,
  0x9d000000000c0000000200003840002,
  0xde000000000c00000002000000f239bc892f22269d3a8307241820,
  0x14000000000c0000000200003840002,
  0x14000000000c0000000200003840002,
  0x19000000000c0000000200003840002,
  0x19000000000c0000000200003840002,
  0x3e00000000000000000000007623a900e2e40812,
  0x44000000000000000000000076242900e2e40812,
  0x1b2000000000000000014000071e7eeacc3440812,
  0x81000000000c0000000200003840002,
  0x8d000000000c0000000200003840002,
  0x783c1e0c47830d4e9d02c393d93001830,
  0x7b7c1edc47b70d4e9d02c393da3001830,
  0x95000000000c0000000200003840002,
  0xdc000000000c00000002000000f578bd58ef56269d3aace7241820,
  0x8d000000000c0000000200003840002,
  0x15000000000c0000000200003840002,
  0x1a000000000c0000000200003840002,
  0x8e000000000c0000000200003840002,
  0x8e000000000c0000000200003840002,
  0x783c1e0c47830d4e9d02c393dd3001830,
  0x82000000000c0000000200003840002,
  0x8f000000000c0000000200003840002,
  0x3c00000000000000000102003a40002,
  0x4600000000000000000102003a40002,
  0x4700000000000000000102003a40002,
  0x5f00000000000000000102003a40002,
  0x3e00000000000000000102003a40002,
  0x3d00000000000000000102003a40002,
  0x72000000000000400100008021f6e90981840810,
  0x3a00000000000000000102003a40002,
  0x4500000000000000000102003a40002,
  0x4800000000000000000102003a40002,
  0x4200000000000000000102003a40002,
  0x5600000000000000000102003a40002,
  0x6000000000000000000102003a40002,
  0x6000000000000000000102003a40002,
  0xc600000000000000000102003a40002,
  0x1a600000000000040010000c021f6e98981840810,
  0x4300000000000000000102003a40002,
  0x4900000000000000000102003a40002,
  0x6200000000000000000102003a40002,
  0x6000000000000000000102003a40002,
  0x5700000000000000000102003a40002,
  0x3f00000000000000000102003a40002,
  0x4a00000000000000000102003a40002,
  0x5800000000000000000102003a40002,
  0x5e00000000000000000102003a40002,
  0x4000000000000000000102003a40002,
  0x4b00000000000000000102003a40002,
  0x5900000000000000000102003a40002,
  0x4100000000000000000102003a40002,
  0x76000000000000000002040001ad9a39e40a188100895320e41033,
  0xf000000000000000000008100102aed70d00e972862041020,
  0xfff44792b1e499d40a2570201820,
  0x403c286628d4021a8033500400842,
  0x101344792b1e499dd8a2570201820,
  0xd46ece740ddcc95d963470201820,
  0x405d66cc60de421bc833790400842,
  0x406da6d260864210c832190400842,
  0x407c287428d4821a9033520400842,
  0x1a400000000000000000000100a02688f2563c93a570241810,
  0x408d66d660dec21bd8337b0400842,
  0x40ada6d860870210e0321c0400842,
  0x6580000000000000000000041c80f86dbc25b783b6f0440832,
  0x6a80000000000000000100001c811aee4425c883b910440832,
  0xd900000000000000000a00003840002,
  0x6c00000000000000000100001c815b6984253083a610440832,
  0x3c00000000000000000000007250a900b2e40812,
  0x3e00000000000000000000007252a900b2e40812,
  0x44000000000000000000000072532900b2e40812,
  0x411c293a28d5421aa833550400842,
  0x412d667260e0c21c1833830400842,
  0x413da6786093421268324d0400842,
  0x407c293e28d5821ab033560400842,
  0x408d667c60e1021c2033840400842,
  0x40ada67e6093821270324e0400842,
  0xf0000000000000000000081001d3aed70d00f972862041020,
  0x417d67de60e1821c3033860400842,
  0x418da7e460950212a032540400842,
  0x408d67e860e1c21c3833870400842,
  0x40ada7ea60954212a832550400842,
  0xf00000000000000000000810012faed70d010172862041020,
  0xf000000000000000000008100160aed70d010972862041020,
  0xf000000000000000000008100229aed70d011172862041020,
  0x39916e645213892140201020,
  0x39a2ae6899fe892570201020,
  0x853d90a6a87cd4429a600839,
  0x40000000000000000000000043c42078830f10440032,
  0x78000000000000000000040800815701d2e40810,
  0x400000000000000000000003a40002,
  0x42bbf0aef22b5257da001021,
  0x42dbf0b6f22b5257da001021,
  0x500000000000000000000003a40002,
  0x600000000000000000000003a40002,
  0x42ec51d841d28a1880201020,
  0x42fcb1dc51d30a2140201020,
  0x1c5213987272902001201020,
  0x865d90caa87e54432a600839,
  0x60000000000000000000000043c42078830f10440032,
  0x700000000000000000000003a40002,
  0xa00000000000000000000003a40002,
  0x800000000000000000000003a40002,
  0x434c51d841db0a1880201020,
  0x435cb1dc51dc0a2140201020,
  0xc4000000000000000000040800852900b2e40810,
  0x90bd40c56086180231800830,
  0xe10070000000000000000000010cbb61955c32a640829,
  0xb00000000000000000000003a40002,
  0x660000000000000000000004028698a3b089880241010,
  0x6780000000000000000000040286b963b8aa140241010,
  0x1e00000000000000000000003a40002,
  0x5100000000000000000200003840002,
  0x4e00000000000000000200003840002,
  0x3d07cf41480db400b2e01020,
  0xc00000000000000000000003a40002,
  0xcb00000000000000000000083840002,
  0x1f00000000000000000000003a40002,
  0x1f00000000000000000000003a40002,
  0x2200000000000000000000003a40002,
  0x5400000000000000000200003840002,
  0x5200000000000000000200003840002,
  0x5300000000000000000200003840002,
  0xd500000000000000000200003840002,
  0x5b00000000000000000200003840002,
  0xd800000000000000000200003840002,
  0x1ba00000000000040000008400222f2ad01840810,
  0xd00000000000000000000003a40002,
  0x2000000000000000000000003a40002,
  0x2300000000000000000000003a40002,
  0x5500000000000000000200003840002,
  0x3dc7cf71480db400b2e01020,
  0x600000000000000000000083840002,
  0xc800000000000000000000003a40002,
  0x700000000000000000000083840002,
  0x800000000000000000000083840002,
  0xb8000000000000000000084002296e2ef3440810,
  0xc700000000000000000000003a40002,
  0xc900000000000000000000003a40002,
  0xba00000000000000000008400229ee2ef3440810,
  0x1b200000000000000001008400229eeaef3440810,
  0x6300000000000000000000003a40002,
  0x6400000000000000000000003a40002,
  0x8b5d916aaa265445aa600839,
  0x44dbf136f20f52529a001021,
  0x44ebf13af20f52529a001021,
  0x1cd214207272902011201020,
  0x865d90caaa28d4432a600839,
  0x965d40c560cd980251800830,
  0x8bdd917aa8d8d445ea600839,
  0x78000000000000000000040800e9d701f2e40810,
  0x865d90caa8d9d4432a600839,
  0xc4000000000000000000040800eda900f2e40810,
  0x97dd40c560ee980271800830,
  0x8c7d918ea8f954463a600839,
  0x7800000000000000000004080097d70202e40810,
  0x865d90caa8fa54432a600839,
  0xc40000000000000000000408009c290102e40810,
  0x98dd40c5609d180291800830,
  0x8d1d91a2a8a7d4468a600839,
  0x78000000000000000000040800b0570212e40810,
  0x865d90caa8a8d4432a600839,
  0xc4000000000000000000040800b4a90112e40810,
  0x99dd40c560b59802b1800830,
  0x8dbd91b6a8c05446da600839,
  0x7800000000000000000004080114d70222e40810,
  0x865d90caa8c154432a600839,
  0xc400000000000000000004080119290122e40810,
  0x9add40c5611a1802d1800830,
  0x8e3d91c6a924d4471a600839,
  0x865d90caa925d4432a600839,
  0xe604213091880200820,
  0x95880e6094280200820,
  0x3c42078830f10400032,
  0xbfc81ae8a0d81200030,
  0x13a42274834e90400032,
  0x13a82275034ea0400032,
  0x120339018c3141400820,
  0x13b42276834ed0400032,
  0x120f482f8c10b1400820,
  0x121351b51125d1800820,
  0xc000000000000020000200200040000,
  0x1217a886180231800820,
  0x121b90871128b1800820,
  0x121fa01d0c10f1400820,
  0x122339030c3151400820,
  0x122b31a4114891800820,
  0x67000000000c0000000200000040000,
  0x12bb48318c1121400820,
  0x123b51b71125f1800820,
  0x1243a889980241800820,
  0x1117908a9128d1800820,
  0x124ba01d8c1171400820,
  0x1a20000000000000000000050024467a1e1840810,
  0x13ec79a4912180200820,
  0x125331a4914931800820,
  0x68000000000c0000000200000040000,
  0x93000000000c0000000200000040000,
  0x125b9003ac2d01800820,
  0x1a8000000000000000000084002476aa911840810,
  0x700000000000000000010010000315840010,
  0x1c0000000000000000004004002487582f1840810,
  0xdd00000000000020000004200040000,
  0x1be00000000000000000000500249748641840810,
  0x13ec79a5112180200820,
  0x1a00000000000000000000840024a66cfc1840810,
  0x91000000000c0000000200000040000,
  0x111790042c2d01800820,
  0x9f000000000c0000000200000040000,
  0x9a000000000c0000000200000040000,
  0x9b000000000c0000000200000040000,
  0x400000000000000000000003840002,
  0x500000000000000000000003840002,
  0xa00000000000000000000003840002,
  0xb00000000000000000000003840002,
  0x1e00000000000000000000003840002,
  0xc00000000000000000000003840002,
  0x1f00000000000000000000003840002,
  0x1f00000000000000000000003840002,
  0x2200000000000000000000003840002,
  0xd900000000000000000804200040000,
  0xd00000000000000000000003840002,
  0x2000000000000000000000003840002,
  0x2300000000000000000000003840002,
  0x720000000000000000020000026d690cc1840810,
  0x12bf39060c3181400820,
  0x12c348358c19a1400820,
  0x12c7519e912671800820,
  0x12cba8cd980251800820,
  0x12cf90ce912991800820,
  0x12d3a01f0c19e1400820,
  0x1a600000000000000000000500257698c91840810,
  0x122339068c3191400820,
  0x12bb48368c1a11400820,
  0x123b51a0912691800820,
  0x1243a8d1180261800820,
  0x111790d21129a1800820,
  0x124ba01f8c1a61400820,
  0x12ef39078c30e1400820,
  0x12f348380c1dc1400820,
  0x12f751f99126f1800820,
  0x12fba8ee980271800820,
  0x12ff90ef912a01800820,
  0x1303a0208c1e01400820,
  0x122339080c30f1400820,
  0x12bb48390c1e31400820,
  0x123b51fb912711800820,
  0x1243a8f2180281800820,
  0x111790f3112a11800820,
  0x124ba0210c1e81400820,
  0x1317483a8c1391400820,
  0x131ba89d180291800820,
  0x131f909e112a71800820,
  0x1323a0220c13d1400820,
  0x12bb483b8c1401400820,
  0x1243a8a09802a1800820,
  0x111790a1912a81800820,
  0x124ba0228c1451400820,
  0x1337483d0c16a1400820,
  0x133ba8b59802b1800820,
  0x133f90b6912ae1800820,
  0x1343a0238c16e1400820,
  0x12bb483e0c1711400820,
  0x1243a8b91802c1800820,
  0x111790ba112af1800820,
  0x124ba0240c1761400820,
  0x1357483f8c2331400820,
  0x135ba91a1802d1800820,
  0x135f911b112b51800820,
  0x1363a0250c2371400820,
  0x12bb48408c23a1400820,
  0x1243a91d9802e1800820,
  0x1117911e912b61800820,
  0x124ba0258c23f1400820,
  0xa0880e6094590200820,
  0x1a60000000000000000020040026d698cc1840810,
  0x1ac213752e00810,
  0x161900891200020,
  0x815701d2e00810,
  0x9000a0000000000000000000040001,
  0xe1901cc1200810,
  0xda101cc1200810,
  0x1d5a900b2e00810,
  0x165091070200020,
  0x84cf0331200810,
  0x2d00000000000000000000280040000,
  0x2408f2180200810,
  0xe3902001200810,
  0x1979a2b92000810,
  0x145091350200020,
  0xcc00000000000000000000080440000,
  0xcf00000000000000000000080440000,
  0x3000000000000000000000280040000,
  0x2e00000000000000000000280040000,
  0xd200000000000000000000080440000,
  0x4a1e0941a00020,
  0xa400000000000000000000280040000,
  0x3100000000000000000000280040000,
  0x2f00000000000000000000280040000,
  0xd100000000000000000000280040000,
  0x2700000000000000000004200040000,
  0x147091960200020,
  0x147891960200020,
  0xd400000000000000000004200040000,
  0xe000000000000000000200200040000,
  0xc100000000000000000200200040000,
  0xdf00000000000000000000280040000,
  0x2800000000000000000004200040000,
  0xd000000000000000000004200040000,
  0x27d8f2180200810,
  0x14a091960200020,
  0x6b00000000000000000100001040000,
  0x7000000000000000000100001040000,
  0x7100000000000000000100001040000,
  0x7200000000000000000100001040000,
  0x7300000000000000000100001040000,
  0x195a13812e00810,
  0xc85701e2e00810,
  0xda901cc1200810,
  0x180091960200020,
  0xcc4f03c1200810,
  0xe7102011200810,
  0x1efa13852e00810,
  0xe9d701f2e00810,
  0xc1902011200810,
  0x181891d80200020,
  0xed4f0401200810,
  0x97d70202e00810,
  0xc2102011200810,
  0x183091350200020,
  0x9bcf0431200810,
  0xb0570212e00810,
  0xfb102001200810,
  0x184891660200020,
  0xb44f0461200810,
  0x114d70222e00810,
  0xfc102001200810,
  0x1860922f0200020,
  0x118cf0491200810,
  0x132101cc1200810,
  0x136101cc1200810,
  0x139901cc1200810,
  0x13c101cc1200810,
  0x13e901cc1200810,
  0x17f900d81200020,
  0x181100dc1200020,
  0x182900e01200020,
  0x184100e41200020,
  0x185900e81200020,
  0x4210200010,
  0x2152e00010,
  0x2c02000010,
  0x39e0200010,
  0x3a22e00010,
  0x533a20001a,
  0xff00000000000000000000000240000,
  0x2c52200010,
  0x2c93800010,
  0xfa3000010,
  0x910600010,
  0x570600010,
  0x380600010,
  0x3ae2e00010,
  0x3640200010,
  0xfba000010,
  0x3120200010,
  0x5b1a00010,
  0x3230200010,
  0x3141400010,
  0x35d1400010,
  0x2cd2200010,
  0x45800010,
  0x10c3000010,
  0x611a00010,
  0x4400000000000000000100000040000,
  0x3290200010,
  0x8600000000000000000100000040000,
  0x55800010,
  0x933c00010,
  0x65800010,
  0x1141400010,
  0x1161400010,
  0x8700000000000000000100000040000,
  0x8700000000000000000100000040000,
  0x5491400010,
  0x8800000000000000000100000040000,
  0x9600000000000000000100000040000,
  0x54c1400010,
  0x54d1400010,
  0x9700000000000000000100000040000,
  0x9700000000000000000100000040000,
  0x54f1400010,
  0x9800000000000000000100000040000,
  0x3301400010,
  0x3e51400010,
  0x49a0200010,
  0x2d43800010,
  0x1933000010,
  0x3370200010,
  0x450a000010,
  0x3181400010,
  0x2d52200010,
  0x19b3000010,
  0x1a31400010,
  0x1a51400010,
  0x2d93800010,
  0x4553000010,
  0x3ec0200010,
  0x1b2a000010,
  0x30e1400010,
  0x2da2200010,
  0x1dd3000010,
  0x1e51400010,
  0x1e71400010,
  0x2de3800010,
  0x1fb3000010,
  0x1f3a000010,
  0x2df2200010,
  0x13a3000010,
  0x1421400010,
  0x1441400010,
  0x2e33800010,
  0x1323000010,
  0x150a000010,
  0x2e42200010,
  0x16b3000010,
  0x1731400010,
  0x1751400010,
  0x2e83800010,
  0x1633000010,
  0x181a000010,
  0x2e92200010,
  0x2343000010,
  0x23c1400010,
  0x23e1400010,
  0x22c3000010,
  0x24aa000010,
  0x24c2e00010,
  0x556a20001a,
  0x2532e00010,
  0x55fa20001a,
  0x567a20001a,
  0x56ea20001a,
  0x575a20001a,
  0x57ba20001a,
  0x2fe2000010,
  0x3012000010,
  0x3042000010,
  0x3072000010,
  0x30a2000010]

end SyscallGuard.Automaton
